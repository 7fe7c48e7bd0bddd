import ParkingLot.Console
/-!
# Sinks

Output that is taken channel by channel. A sink may hold back what is written to it until it is
flushed. One with a fault fails every write and every flush, and takes nothing.
-/

namespace ParkingLot

structure Sink where
  fault? : Option OutputError := none
  passed : String := ""
  /-- What has been taken but not passed on. -/
  held : String := ""
deriving DecidableEq, Repr

namespace Sink

def write (sink : Sink) (text : String) : Except OutputError Unit × Sink :=
  match sink.fault? with
  | some e => (.error e, sink)
  | none => (.ok (), { sink with held := sink.held ++ text })

def flush (sink : Sink) : Except OutputError Unit × Sink :=
  match sink.fault? with
  | some e => (.error e, sink)
  | none => (.ok (), { sink with passed := sink.passed ++ sink.held, held := "" })

/-- All that the sink has taken. -/
def contents (sink : Sink) : String := sink.passed ++ sink.held

end Sink

/-- A sink for each channel, and the warnings so far. -/
structure Sinks where
  result : Sink := {}
  diagnostic : Sink := {}
  shell : Sink := {}
  warnings : List Warning := []
deriving DecidableEq, Repr

namespace Sinks

def ofFaults (faults : Channel → Option OutputError) : Sinks where
  result := { fault? := faults .result }
  diagnostic := { fault? := faults .diagnostic }
  shell := { fault? := faults .shell }

def sink (sinks : Sinks) : Channel → Sink
  | .result => sinks.result
  | .diagnostic => sinks.diagnostic
  | .shell => sinks.shell

def put (sinks : Sinks) (sink : Sink) : Channel → Sinks
  | .result => { sinks with result := sink }
  | .diagnostic => { sinks with diagnostic := sink }
  | .shell => { sinks with shell := sink }

def fault? (sinks : Sinks) (channel : Channel) : Option OutputError := (sinks.sink channel).fault?

def contents (sinks : Sinks) (channel : Channel) : String := (sinks.sink channel).contents

instance : Outlet Sinks where
  write sinks channel text :=
    let (answer, sink) := (sinks.sink channel).write text
    (answer, sinks.put sink channel)
  flush sinks channel :=
    let (answer, sink) := (sinks.sink channel).flush
    (answer, sinks.put sink channel)
  warn sinks warning := { sinks with warnings := sinks.warnings ++ [warning] }

@[simp] theorem sink_ofFaults (faults : Channel → Option OutputError) (channel : Channel) :
    (ofFaults faults).sink channel = { fault? := faults channel } := by
  cases channel <;> rfl

@[simp] theorem sink_put (sinks : Sinks) (sink : Sink) (channel other : Channel) :
    (sinks.put sink channel).sink other = if other = channel then sink else sinks.sink other := by
  cases channel <;> cases other <;> rfl

end Sinks

end ParkingLot
