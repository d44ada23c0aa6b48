import FlightBus.Bus.Session
import FlightBus.Control.Host
import FlightBus.Control.Simulation
import FlightBus.Lock
import FlightBus.Proofs.Bus.Accounting
import FlightBus.Proofs.Bus.Attempts
import FlightBus.Proofs.Bus.Boundaries
import FlightBus.Proofs.Bus.BoundedQueue
import FlightBus.Proofs.Bus.Closing
import FlightBus.Proofs.Bus.Counters
import FlightBus.Proofs.Bus.DeliveryOrder
import FlightBus.Proofs.Bus.EndToEnd
import FlightBus.Proofs.Bus.Occupancy
import FlightBus.Proofs.Bus.Queues
import FlightBus.Proofs.Bus.Registration
import FlightBus.Proofs.Bus.Slots
import FlightBus.Proofs.Bus.Streams
import FlightBus.Proofs.Bus.Undecodable
import FlightBus.Proofs.Control.Passes
import FlightBus.Proofs.Control.ServoQueue
import FlightBus.Proofs.Frame.Bounds
import FlightBus.Proofs.Frame.Corruption
import FlightBus.Proofs.Frame.Encoders
import FlightBus.Proofs.Frame.Reencoding
import FlightBus.Proofs.Frame.Resynchronization
import FlightBus.Proofs.Frame.RoundTrip
import FlightBus.Proofs.Frame.Schedule
import FlightBus.Proofs.Lock.Exclusion
import FlightBus.Proofs.Message.Decoding
import FlightBus.Proofs.Time.Units
import FlightBus.Proofs.Wire.Fields
import FlightBus.Time
