import Switchboard.Proofs.Keyed
import Switchboard.Proofs.Recorded
import Switchboard.Proofs.Session.Built
import Switchboard.Proofs.Simulation.Holdings
/-!
# What can be read back

Of a simulated engine its name, the topics of its groups and its saved state can be read back. What
they are is told from what was stored (`Stored`): a name or a topic is stored by a request that goes
well (`Request.noted?`), and no other request stores or removes anything (`stored_perform`). A read
takes two calls, one for the size and one for the bytes, and gives exactly what was stored
(`getName_apply`, `groupGetTopic_apply`, `save_apply`).
-/

namespace Switchboard

/-! ## What was stored -/

/-- What was stored last, and not removed since. -/
structure Stored where
  saved : Bytes
  name : Bytes
  topic? : UInt32 → Option Bytes

/-- Something that was stored or removed. -/
inductive Note where
  /-- The session was opened with this saved state. -/
  | opened (saved : Bytes)
  | named (name : Bytes)
  | topic (group : UInt32) (topic : Bytes)
  | left (group : UInt32)
  deriving DecidableEq, Repr

namespace Stored

def nothing : Stored := ⟨[], [], fun _ => none⟩

def note (stored : Stored) : Note → Stored
  | .opened saved => ⟨saved, [], fun _ => none⟩
  | .named name => { stored with name := name }
  | .topic group topic =>
    { stored with topic? := Function.update stored.topic? group (some topic) }
  | .left group => { stored with topic? := Function.update stored.topic? group none }

def after (stored : Stored) : Option Note → Stored
  | some note => stored.note note
  | none => stored

def shown (holdings : Holdings) : Bytes × Bytes × Keyed UInt32 Bytes :=
  (holdings.savedata, holdings.name, holdings.groups)

structure In (stored : Stored) (holdings : Holdings) : Prop where
  saved : holdings.savedata = stored.saved
  name : holdings.name = stored.name
  topic : (Keyed.get? · holdings.groups) = stored.topic?

section In

variable {stored : Stored} {holdings : Holdings}

private theorem In.of_shown (kept : stored.In holdings) {later : Holdings}
    (same : shown later = shown holdings) : stored.In later := by
  obtain ⟨saved, rest⟩ := Prod.mk.inj same
  obtain ⟨name, groups⟩ := Prod.mk.inj rest
  exact ⟨saved.trans kept.saved, name.trans kept.name, by rw [groups, kept.topic]⟩

private theorem shown_reported {α : Type} {change : α → Holdings → Holdings}
    (aside : ∀ value, shown (change value holdings) = shown holdings)
    (answer : Option (Reported α)) :
    shown (Holdings.reported change answer holdings) = shown holdings := by
  cases h : value? answer with
  | none => rw [Holdings.reported_of_no_value h]
  | some value => rw [Holdings.reported_of_value h, aside]

theorem In.named (kept : stored.In holdings) (name : Bytes) :
    (stored.note (.named name)).In { holdings with name := name } :=
  ⟨kept.saved, rfl, kept.topic⟩

private theorem In.topicSet (kept : stored.In holdings) (group : UInt32) (topic : Bytes) :
    (stored.note (.topic group topic)).In
      { holdings with groups := Keyed.put group topic holdings.groups } where
  saved := kept.saved
  name := kept.name
  topic := (Keyed.get?_put group topic holdings.groups).trans (by rw [kept.topic]; rfl)

private theorem In.groupLeft (kept : stored.In holdings) (group : UInt32) :
    (stored.note (.left group)).In
      { holdings with groups := Keyed.erase group holdings.groups } where
  saved := kept.saved
  name := kept.name
  topic := (Keyed.get?_erase group holdings.groups).trans (by rw [kept.topic]; rfl)

end In

end Stored

/-- What was stored or removed, if it went well. -/
def Outcome.noted? {α : Type} (outcome : Outcome CallError α) (note? : Option Note) : Option Note :=
  match outcome with
  | .ok _ => note?
  | _ => none

namespace Request

def note? : Request → Option Note
  | .setName name => some (.named name)
  | .groupSetTopic group topic => some (.topic group topic)
  | .groupLeave group _ => some (.left group)
  | _ => none

/-- The other requests make no calls that store or remove anything. -/
theorem MayCall.shown {request : Request} {c : Call} (asked : request.MayCall c)
    (silent : request.note? = none) (engine : SimulatedEngine) :
    Stored.shown (SimulatedEngine.answer c engine).2.holdings = Stored.shown engine.holdings := by
  rw [SimulatedEngine.holdings_answer]
  cases asked with
  | setName | groupSetTopic | groupLeave => cases silent
  | friendAdd | friendAddNorequest | friendDelete => exact Stored.shown_reported (fun _ => rfl) _
  | _ => rfl

end Request

/-! ## From outside -/

namespace SimulatedEngine

variable {stored : Stored}

def Tweak.note? : Tweak → SimulatedEngine → Option Note
  | .addGroup topic, engine => some (.topic (engine.addGroup topic).1 topic)
  | _, _ => none

theorem stored_apply (made : Tweak) {engine : SimulatedEngine} (kept : stored.In engine.holdings) :
    (stored.after (made.note? engine)).In (made.apply engine).holdings := by
  rw [holdings_apply]
  cases made with
  | addGroup topic =>
    exact ⟨kept.saved, kept.name, (kept.topicSet engine.nextGroup topic).topic⟩
  | addFriend key => exact kept.of_shown (Stored.shown_reported (fun _ => rfl) _)
  | _ => exact kept

end SimulatedEngine

namespace HeldSession

variable {held : HeldSession (Recorded SimulatedEngine)} {stored : Stored}

/-! ## One request -/

private theorem stored_of_aside (now : Timestamp) {request : Request}
    (silent : request.note? = none) (kept : stored.In held.engine.engine.holdings) :
    stored.In (request.perform now held).state.engine.engine.holdings := by
  have built : Built (ε := Recorded SimulatedEngine) request.MayCall True (request.perform now) :=
    built_perform now (fun _ asked => asked) fun _ => trivial
  exact kept.of_shown
    (built.engine_same (fun recorded => Stored.shown recorded.engine.holdings)
      (fun c asked recorded => asked.shown silent recorded.engine) held)

/-- What a call changes if it is accepted is stored just then. -/
theorem stored_reported (c : Call) (next : c.Answer → Reported Unit) (operation : Operation)
    (change : Unit → Holdings → Holdings) {note : Note}
    (answered : ∀ answer holdings,
      Holdings.answered c answer holdings = Holdings.reported change (answer.map next) holdings)
    (kept : stored.In held.engine.engine.holdings)
    (changed : (stored.note note).In (change () held.engine.engine.holdings)) :
    let ran := (call c >>= fun answer => accept operation (next answer)) held
    (stored.after (ran.outcome.noted? (some note))).In ran.state.engine.engine.holdings := by
  have performed := SimulatedEngine.holdings_answer c held.engine.engine
  rw [answered] at performed
  simp only [Run.bind_apply, call, Engine.perform]
  rcases hran : SimulatedEngine.answer c held.engine.engine with ⟨answer, engine⟩
  rw [hran] at performed
  cases answer with
  | none => exact performed ▸ kept
  | some answer =>
    simp only [Run.andThen_ok]
    simp only [Option.map_some] at performed
    cases ended : next answer with
    | ok value =>
      rw [ended] at performed
      exact performed ▸ changed
    | error code =>
      rw [ended] at performed
      simp only [accept]
      cases operation.reason? code with
      | some reason => exact performed ▸ kept
      | none => exact performed ▸ kept

private theorem noted?_andThen_done {σ α : Type} (ran : Ran σ CallError α) (note? : Option Note) :
    (Run.andThen ran fun _ => pure Reply.done).outcome.noted? note? = ran.outcome.noted? note? := by
  obtain ⟨outcome, state, entries⟩ := ran
  cases outcome <;> rfl

private theorem stored_written {operation : Held (Recorded SimulatedEngine) Unit} {note : Note}
    (written : (stored.after ((operation held).outcome.noted? (some note))).In
      (operation held).state.engine.engine.holdings) :
    let ran := (do operation; return .done : Held (Recorded SimulatedEngine) Reply) held
    (stored.after (ran.outcome.noted? (some note))).In ran.state.engine.engine.holdings := by
  simp only [Run.bind_apply, noted?_andThen_done, Run.state_andThen_pure]
  exact written

/-- A request stores or removes what it is to if it goes well, and nothing otherwise. -/
theorem stored_perform (now : Timestamp) (request : Request)
    (kept : stored.In held.engine.engine.holdings) :
    (stored.after ((request.perform now held).outcome.noted? request.note?)).In
      (request.perform now held).state.engine.engine.holdings := by
  cases hnote : request.note? with
  | none =>
    have same : (request.perform now held).outcome.noted? none = none := by
      cases (request.perform now held).outcome <;> rfl
    rw [same]
    exact stored_of_aside now hnote kept
  | some note =>
    cases request with
    | setName name =>
      cases hnote
      exact stored_written (stored_reported (.setName name) id .setInfo
        (fun _ holdings => { holdings with name := name })
        (fun answer _ => by cases answer <;> rfl) kept (kept.named name))
    | groupSetTopic group topic =>
      cases hnote
      exact stored_written (stored_reported (.groupSetTopic group topic) id .groupTopicSet
        (fun _ holdings => { holdings with groups := Keyed.put group topic holdings.groups })
        (fun answer _ => by cases answer <;> rfl) kept (kept.topicSet group topic))
    | groupLeave group message =>
      cases hnote
      exact stored_written (stored_reported (.groupLeave group message) id .groupLeave
        (fun _ holdings => { holdings with groups := Keyed.erase group holdings.groups })
        (fun answer _ => by cases answer <;> rfl) kept (kept.groupLeft group))
    | _ => cases hnote

/-! ## Reading -/

/-- Room of the size that was asked for is filled with all there is. -/
theorem fill_room (bytes : Bytes) : Bytes.fill bytes (room bytes.length) = bytes :=
  Bytes.fill_of_length_eq List.length_replicate

theorem getName_apply (now : Timestamp) (held : HeldSession (Recorded SimulatedEngine)) :
    (Request.perform now .getName held).outcome = .ok (.bytes held.engine.engine.name) := by
  simp only [Request.perform, getName, Run.bind_apply, call, Engine.perform,
    SimulatedEngine.answer, Run.andThen_ok, Run.pure_apply, fill_room]

theorem save_apply (now : Timestamp) (held : HeldSession (Recorded SimulatedEngine)) :
    (Request.perform now .save held).outcome = .ok (.bytes held.engine.engine.savedata) := by
  simp only [Request.perform, save, Run.bind_apply, call, Engine.perform,
    SimulatedEngine.answer, Run.andThen_ok, Run.pure_apply, fill_room]

theorem groupGetTopic_apply (now : Timestamp) {held : HeldSession (Recorded SimulatedEngine)}
    (free : held.engine.engine.Unhindered .groupStateQueries) (group : UInt32) :
    (Request.perform now (.groupGetTopic group) held).outcome =
      match Keyed.get? group held.engine.engine.groups with
      | some topic => .ok (.bytes topic)
      | none => .error (.failed ⟨.groupStateQueries, .groupNotFound⟩) := by
  simp only [Request.perform, groupGetTopic, Run.bind_apply, call, Engine.perform,
    SimulatedEngine.answer, SimulatedEngine.report_of_unhindered free]
  cases found : Keyed.get? group held.engine.engine.groups with
  | none => rfl
  | some topic =>
    simp only [Run.andThen_ok, accept, Run.pure_apply, Run.bind_apply, call, Engine.perform,
      SimulatedEngine.answer, found, fill_room]

end HeldSession

end Switchboard
