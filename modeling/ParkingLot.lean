import ParkingLot.Main
import ParkingLot.Proofs.Language.NormalForm
import ParkingLot.Proofs.LostOutput
import ParkingLot.Proofs.Lot.Leaving
import ParkingLot.Proofs.Lot.Occupancy
import ParkingLot.Proofs.Lot.Parking
import ParkingLot.Proofs.Lot.Views
import ParkingLot.Proofs.Session.Blank
import ParkingLot.Proofs.Session.IllFormed
import ParkingLot.Proofs.Session.Readings
import ParkingLot.Proofs.Language.Integers
import ParkingLot.Proofs.Language.Cars
import ParkingLot.Proofs.Text.Layout
import ParkingLot.Proofs.Lot.Status
import ParkingLot.Proofs.Language.Calls
import ParkingLot.Proofs.Language.Spacing
import ParkingLot.Proofs.Language.Spans
import ParkingLot.Proofs.Language.Listing
import ParkingLot.Proofs.Language.Ends
import ParkingLot.Proofs.Storage.Unavailable
import ParkingLot.Proofs.Session.Decoding
