import MeshBeacon.Hub
import Mathlib.Data.Fintype.Prod

/-!
# The mesh

Any number of MamaDucks and PapaDucks share the air. A frame that a duck sends stays
there, and any duck may hear it, in any order and more than once; what a duck does
with it is the code of that duck. In between the ducks run their main loops and
send data of their own.

Every frame carries what it goes back to. A route response sent on hearing a route
response is a **reaction** and belongs to the original response of the one heard;
every other frame starts anew.
-/

variable {ι S J : Type*} {g : BloomGeometry}

/-! ## The ducks -/

/-- A duck of the mesh. -/
inductive MeshDuck (S : Type*) (g : BloomGeometry) where
  | mama (node : MamaDuck S g)
  | papa (node : TimedDuck S g)

/-- The duck with these frames to read, and none queued. -/
def Duck.listening (uplinkQueue : List (UplinkPacket S)) (duck : Duck S g) : Duck S g :=
  { duck with
    duckRadio := { duck.duckRadio with
      receivedFlag := !uplinkQueue.isEmpty
      uplinkQueue := uplinkQueue
      downlinkQueue := [] } }

namespace MeshDuck

/-- What all ducks have. -/
def duck : MeshDuck S g → Duck S g
  | mama node => node.duck
  | papa node => node.duck

/-- The duck with these frames to read, and none queued. -/
def listening (uplinkQueue : List (UplinkPacket S)) : MeshDuck S g → MeshDuck S g
  | mama node => .mama { node with duck := node.duck.listening uplinkQueue }
  | papa node => .papa { node with duck := node.duck.listening uplinkQueue }

/-- The frames it has queued. -/
def sent (node : MeshDuck S g) : List (List UInt8) :=
  node.duck.duckRadio.downlinkQueue.map DownlinkPacket.payload

variable [LinearOrder S] (lib : ArduinoJson J) (env : DuckEnv) (millis : UInt64)

/-- `main` of a MamaDuck, and `processPackets` of a PapaDuck. -/
def loop : MeshDuck S g → Option (MeshDuck S g)
  | mama node => (node.main lib env millis).map .mama
  | papa node =>
    if node.duck.duckRadio.receivedFlag ∨ node.duck.duckRadio.uplinkQueue ≠ [] then
      (PapaDuck.handleReceivedPacket lib env node.duck).map fun duck =>
        .papa { node with duck := duck }
    else some (.papa node)

/-- `sendData`. -/
def sendData (topic : UInt8) (data : List UInt8) (targetDevice : Duid) :
    MeshDuck S g → MeshDuck S g
  | mama node => .mama (node.sendData lib env millis topic data targetDevice)
  | papa node => .papa (node.sendData lib env millis topic data targetDevice).2

/-- `sendData`, where it is defined. -/
def send (topic : UInt8) (data : List UInt8) (targetDevice : Duid) (node : MeshDuck S g) :
    Option (MeshDuck S g) :=
  if node.duck.SendDefined topic targetDevice then
    some (node.sendData lib env millis topic data targetDevice)
  else none

theorem send_eq_some {topic : UInt8} {data : List UInt8} {targetDevice : Duid}
    {node node' : MeshDuck S g} :
    node.send lib env millis topic data targetDevice = some node'
      ↔ node.duck.SendDefined topic targetDevice
        ∧ node.sendData lib env millis topic data targetDevice = node' := by
  rw [send, Option.ite_none_right_eq_some, Option.some_inj]

/-- `sendPing`. -/
def sendPing (targetDevice : Duid) : MeshDuck S g → MeshDuck S g
  | mama node => .mama (node.sendPing env targetDevice)
  | papa node =>
    .papa { node with
      duck := (node.duck.sendReservedTopicData env targetDevice ReservedTopic.ping [0]).2 }

/-- **The duck reacts to a route response**: its radio hands the frame over, a MamaDuck
is in the public network, and the handler of its type sends it again. -/
def ReactsTo (frame : List UInt8) (node : MeshDuck S g) : Prop :=
  node.duck.duckRadio.isSetup ∧ DuckLoRa.acceptable frame ∧
    match node with
    | mama node => node.duck.router.networkState = .publicNetwork
        ∧ node.ReactsTo lib (CdpPacket.ofBuffer frame)
    | papa node => PapaDuck.ReactsTo lib (CdpPacket.ofBuffer frame) node.duck

instance (frame : List UInt8) (node : MeshDuck S g) : Decidable (node.ReactsTo lib frame) :=
  match node with
  | mama _ => inferInstanceAs (Decidable (_ ∧ _ ∧ _ ∧ _))
  | papa _ => inferInstanceAs (Decidable (_ ∧ _ ∧ _))

end MeshDuck

/-! ## The air -/

/-- A frame on the air. -/
structure Transmission (ι : Type*) where
  sender : ι
  frame : List UInt8
  /-- It is sent on hearing a route response. -/
  reaction : Bool
  /-- The place on the air of what it goes back to. -/
  root : ℕ

/-- The ducks, and all frames that have been on the air. -/
structure Mesh (ι S : Type*) (g : BloomGeometry) where
  ducks : ι → MeshDuck S g
  air : List (Transmission ι)

/-- What happens in the mesh. -/
inductive MeshEvent (ι S : Type*) where
  /-- A duck hears the frame in a place on the air, and runs its main loop. -/
  | hear (i : ι) (k : ℕ) (freqHz : UInt32) (datarateSf : UInt8) (signalScore : S) (env : DuckEnv)
    (millis : UInt64)
  /-- A duck runs its main loop without having heard anything. -/
  | idle (i : ι) (env : DuckEnv) (millis : UInt64)
  /-- The application of a duck sends data. -/
  | sendData (i : ι) (env : DuckEnv) (millis : UInt64) (topic : UInt8) (data : List UInt8)
    (targetDevice : Duid)
  /-- The application of a duck sends a ping. -/
  | sendPing (i : ι) (env : DuckEnv) (targetDevice : Duid)

namespace Mesh

variable [DecidableEq ι] [LinearOrder S] (lib : ArduinoJson J)

/-- A duck has become another and sent frames. -/
def after (i : ι) (reaction : Bool) (root : ℕ) (node : MeshDuck S g) (mesh : Mesh ι S g) :
    Mesh ι S g where
  ducks := Function.update mesh.ducks i node
  air := mesh.air ++ node.sent.map fun frame => ⟨i, frame, reaction, root⟩

/-- A duck has done something of its own. -/
def afterOwn (i : ι) (node : MeshDuck S g) (mesh : Mesh ι S g) : Mesh ι S g :=
  mesh.after i false mesh.air.length node

/-- One event. Nothing is known of a mesh after undefined behaviour. -/
def step (mesh : Option (Mesh ι S g)) (event : MeshEvent ι S) : Option (Mesh ι S g) :=
  match mesh, event with
  | none, _ => none
  | some mesh, .hear i k freqHz datarateSf signalScore env millis =>
    match mesh.air[k]? with
    | none => some mesh
    | some heard =>
      let pkt := ⟨heard.frame, freqHz, datarateSf, signalScore⟩
      (((mesh.ducks i).listening [pkt]).loop lib env millis).map fun node =>
        -- all that goes back to one original has the root of that
        if IsRrep heard.frame then mesh.after i true heard.root node else mesh.afterOwn i node
  | some mesh, .idle i env millis =>
    (((mesh.ducks i).listening []).loop lib env millis).map fun node => mesh.afterOwn i node
  | some mesh, .sendData i env millis topic data targetDevice =>
    (((mesh.ducks i).listening []).send lib env millis topic data targetDevice).map fun node =>
      mesh.afterOwn i node
  | some mesh, .sendPing i env targetDevice =>
    some (mesh.afterOwn i (((mesh.ducks i).listening []).sendPing env targetDevice))

/-- The route responses that are reactions. -/
def reactions (mesh : Mesh ι S g) : List (Transmission ι) :=
  mesh.air.filter fun t => t.reaction && decide (IsRrep t.frame)

/-- The route responses that are not. -/
def originals (mesh : Mesh ι S g) : List (Transmission ι) :=
  mesh.air.filter fun t => !t.reaction && decide (IsRrep t.frame)

/-- **Route responses do not storm.** -/
structure NoStorm [Fintype ι] (mesh : Mesh ι S g) : Prop where
  /-- No duck sends two route responses in reaction to one original. -/
  once : (mesh.reactions.map fun t => (t.sender, t.root)).Nodup
  /-- There are at most as many reactions as there are ducks for each original. -/
  few : mesh.reactions.length ≤ Fintype.card ι * mesh.originals.length

/-- **No duck reacts again**: a duck that hears a response of an original which it has
already reacted to does not react to it. -/
def NotAgain (mesh : Option (Mesh ι S g)) (event : MeshEvent ι S) : Prop :=
  match mesh, event with
  | some mesh, .hear i k .. => ∀ heard ∈ mesh.air[k]?, IsRrep heard.frame →
      (∃ t ∈ mesh.reactions, t.sender = i ∧ t.root = heard.root) →
      ¬ (mesh.ducks i).ReactsTo lib heard.frame
  | _, _ => True

instance (mesh : Option (Mesh ι S g)) (event : MeshEvent ι S) :
    Decidable (NotAgain lib mesh event) :=
  match mesh, event with
  | none, _ => inferInstanceAs (Decidable True)
  | some mesh, .hear i k .. =>
    inferInstanceAs (Decidable (∀ heard ∈ mesh.air[k]?, IsRrep heard.frame →
      (∃ t ∈ mesh.reactions, t.sender = i ∧ t.root = heard.root) →
      ¬ (mesh.ducks i).ReactsTo lib heard.frame))
  | some _, .idle .. => inferInstanceAs (Decidable True)
  | some _, .sendData .. => inferInstanceAs (Decidable True)
  | some _, .sendPing .. => inferInstanceAs (Decidable True)

end Mesh
