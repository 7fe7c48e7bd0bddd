/-!
# The console

What a program writes, in the order of writing. Results, diagnostics and the shell's own words go
to channels of their own. Writing to a channel may fail, and so may flushing it: whoever does it is
told, and may leave a warning. A channel of a console may be closed: then each write and flush of it
fails, what is sent there is lost, and nothing else changes.
-/

namespace ParkingLot

inductive Channel where
  /-- What statements report. -/
  | result
  /-- Complaints, and queries that found nothing. -/
  | diagnostic
  /-- Prompts and the answers of the shell itself. -/
  | shell
deriving DecidableEq, Repr

structure OutputError where
  reason : String
deriving DecidableEq, Repr

/-- What the logs say about output that is not taken. -/
inductive Warning where
  | write (e : OutputError)
  | flush (e : OutputError)
deriving DecidableEq, Repr

/-- Something that takes output, and the logs beside it. Both writing and flushing may fail. -/
class Outlet (σ : Type) where
  write : σ → Channel → String → Except OutputError Unit × σ
  flush : σ → Channel → Except OutputError Unit × σ
  warn : σ → Warning → σ

structure Console where
  closed : List Channel := []
  log : Array (Channel × String) := #[]
deriving DecidableEq, Repr

namespace Console

def answer (console : Console) (channel : Channel) : Except OutputError Unit :=
  if channel ∈ console.closed then .error ⟨"closed"⟩ else .ok ()

def write (console : Console) (channel : Channel) (text : String) : Console :=
  if channel ∈ console.closed then console
  else { console with log := console.log.push (channel, text) }

/-- A console keeps no logs and holds nothing back. -/
instance : Outlet Console where
  write console channel text := (console.answer channel, console.write channel text)
  flush console channel := (console.answer channel, console)
  warn console _ := console

def writeLine (console : Console) (channel : Channel) (text : String) : Console :=
  console.write channel (text ++ "\n")

/-- All that reached the given channels, in the order of writing. -/
def text (console : Console) (channels : List Channel) : String :=
  String.join ((console.log.toList.filter (·.1 ∈ channels)).map Prod.snd)

@[simp] theorem closed_write (console : Console) (channel : Channel) (text : String) :
    (console.write channel text).closed = console.closed := by
  simp only [write]
  split <;> rfl

end Console

end ParkingLot
