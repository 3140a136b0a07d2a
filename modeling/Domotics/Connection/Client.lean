import Domotics.CentralUnit
import Domotics.Connection.Event
import Domotics.Message.Codec
/-!
# The client

A client keeps up a connection to a central unit from when it is started until it is told to stop.
It connects, logs in, passes on what arrives, and connects again when the connection is lost; after
a failed attempt it waits for a while. Each connection gets the next epoch.

Messages to send wait in a queue, each with the epoch of the connection it is meant for. The client
takes them one by one. One that is meant for another connection than the present one is dropped, so
a message never reaches a connection it was not meant for. While the client waits after a failed
attempt it drops all of them. When it is told to stop on a connection, it still sends what is in the
queue for it, and then logs out.

The world acts on a client through `Happening`s. `Client.step` says what the client does then: what
it writes on its connection, as messages in order, and which events it posts. Posting can be cut
short, because a client that is told to stop does not wait for room to post:
`Client.stepCutShort` is a step of which only the first events were posted before that.
-/

namespace Domotics

/-- How far a client is. -/
inductive Phase where
  | connecting
  /-- It waits after a failed attempt. -/
  | waiting
  /-- A connection is up; `buffer` holds the beginning of a frame that is not complete yet. -/
  | online (buffer : List UInt8)
  /-- It was told to stop, and nothing happens any more. -/
  | ended
deriving DecidableEq

/-- A client. -/
structure Client where
  address : ServerAddress
  credentials : Credentials
  phase : Phase
  /-- The number of connections so far. -/
  epoch : Epoch
  /-- The number of attempts that failed since the last connection. -/
  attempts : Nat
  /-- What is to be sent, and on which connection. -/
  queue : List (Epoch × Message)

/-- What the world does to a client. -/
inductive Happening where
  /-- An attempt to connect succeeded. -/
  | connected
  /-- An attempt to connect failed. -/
  | refused (reason : String)
  /-- The wait after a failed attempt is over. -/
  | waited
  /-- The client takes the first message of the queue. -/
  | taken
  | received (data : List UInt8)
  /-- The other side closed the connection, or it broke. -/
  | lost
  | toldToStop
deriving DecidableEq

/-- What came of a step. -/
structure ClientStep where
  client : Client
  /-- What was written, and on which connection. -/
  written : List (Epoch × Message)
  posted : List ConnectionEvent

namespace Client

/-- A client that was just started. -/
def start (address : ServerAddress) (credentials : Credentials) : Client :=
  ⟨address, credentials, .connecting, 0, 0, []⟩

def state (client : Client) : ConnectionState :=
  match client.phase with
  | .connecting | .waiting => .connecting
  | .online _ => .online client.epoch
  | .ended => .offline

/-- Puts a message into the queue, unless the client has ended. -/
def send (client : Client) (epoch : Epoch) (message : Message) : Except Error Client :=
  match client.phase with
  | .ended => .error .channelClosed
  | _ => .ok { client with queue := client.queue ++ [(epoch, message)] }

/-- The messages among some that are written on the present connection: those that are meant for it
and can be encoded. -/
def writable (client : Client) (messages : List (Epoch × Message)) : List (Epoch × Message) :=
  messages.filter fun (epoch, message) => epoch = client.epoch ∧ message.encode.toOption.isSome

/-- The message a client logs in with. -/
def login (client : Client) : Message :=
  .logIn client.credentials.username client.credentials.password

/-- The message a client logs out with. -/
def logout : Message :=
  .logout "Client stopped"

/-- The event that passes on what arrived. -/
def arrival (epoch : Epoch) : Except Error Message → ConnectionEvent
  | .ok message => .message epoch message
  | .error e => .protocolError epoch e.message

/-- What is said of an attempt to connect to an address that failed. -/
def refusal (address cause : String) : String :=
  (Error.connection s!"failed to connect to {address}: {cause}").message

/-- Nothing comes of what happened. -/
def stay (client : Client) : ClientStep :=
  ⟨client, [], []⟩

/-- A connection is up. -/
def connect (client : Client) : ClientStep :=
  let connected := { client with phase := .online [], epoch := client.epoch + 1, attempts := 0 }
  ⟨connected, connected.writable [(connected.epoch, connected.login)],
    [.connected connected.epoch]⟩

/-- What a client does when something happens to it. What cannot happen to it as far as it is comes
to nothing. -/
def step (client : Client) (happening : Happening) : ClientStep :=
  match client.phase, happening with
  | .connecting, .connected => client.connect
  | .connecting, .refused reason =>
    let attempts := client.attempts + 1
    ⟨{ client with phase := .waiting, attempts }, [], [.connectFailed attempts reason]⟩
  | .waiting, .waited => stay { client with phase := .connecting }
  | .waiting, .taken => stay { client with queue := client.queue.drop 1 }
  | .online _, .taken =>
    ⟨{ client with queue := client.queue.drop 1 }, client.writable (client.queue.take 1), []⟩
  | .online buffer, .received data =>
    let (arrived, rest) := decodeAll (buffer ++ data)
    ⟨{ client with phase := .online rest }, [], arrived.map (arrival client.epoch)⟩
  | .online _, .lost =>
    ⟨{ client with phase := .connecting }, [], [.disconnected client.epoch]⟩
  | .online _, .toldToStop =>
    ⟨{ client with phase := .ended, queue := [] },
      client.writable client.queue ++ [(client.epoch, logout)], []⟩
  | .connecting, .toldToStop | .waiting, .toldToStop => stay { client with phase := .ended }
  | _, _ => client.stay

/-- Two steps one after the other. -/
def andThen (first : ClientStep) (next : Client → ClientStep) : ClientStep :=
  let second := next first.client
  ⟨second.client, first.written ++ second.written, first.posted ++ second.posted⟩

/-- A step of which only the first `room` events were posted when the client was told to stop. -/
def stepCutShort (client : Client) (happening : Happening) (room : Nat) : ClientStep :=
  let cut := client.step happening
  andThen { cut with posted := cut.posted.take room } (·.step .toldToStop)

/-- The steps of a client to which things happen one after the other. -/
def run (client : Client) (happenings : List Happening) : ClientStep :=
  happenings.foldl (fun done happening => andThen done (·.step happening)) client.stay

end Client

end Domotics
