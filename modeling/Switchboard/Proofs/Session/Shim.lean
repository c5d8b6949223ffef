import Switchboard.Proofs.Session.Parallel
import Switchboard.Proofs.Session.Translation
import Switchboard.Proofs.Simulation.Disguised
/-!
# Sessions behind the shim

An engine that numbers files per direction is made to look like one that does not: its session
keeps a transfer table, and takes a name or a status message of a single NUL for an empty one. For
two sessions of which one has such an engine, and which are the same otherwise, that is all there is
to see as long as nothing is asked or said about files: `shimmed` says what the one is like if the
other is known, and every request keeps it so (`parallel_shims`, `lifts_shims`).
-/

namespace Switchboard

/-! ## What the shim does to events -/

/-- The event, as it comes through the shim: a name or a status message of a single NUL comes empty,
and nothing else is changed. -/
def Event.shimmed : Event → Event
  | .friendName friend name => .friendName friend (if name = [0] then [] else name)
  | .friendStatusMessage friend message =>
    .friendStatusMessage friend (if message = [0] then [] else message)
  | other => other

def Envelope.shimmed (envelope : Envelope) : Envelope :=
  { envelope with event := envelope.event.shimmed }

def Batch.shimmed (batch : Batch) : Batch := ⟨batch.envelopes.map Envelope.shimmed⟩

namespace EventQueue

def shimmed (queue : EventQueue) : EventQueue where
  nextSeq := queue.nextSeq
  newestFirst := queue.newestFirst.map Envelope.shimmed
  length := queue.length
  length_eq := by rw [List.length_map, queue.length_eq]

private theorem shimmed_drain (queue : EventQueue) :
    queue.shimmed.drain.1 = queue.drain.1.shimmed := by
  simp only [drain, pending, shimmed, Batch.shimmed, List.map_reverse]

end EventQueue

namespace Notification

/-- The notification is about a file, in one scheme or the other. -/
def isFile (notification : Notification) : Bool :=
  notification.isUnifiedFile || notification.isLegacyFile

private theorem map_shimmed {α : Type} {result : Except Violation α} {event event' : α → Event}
    (h : ∀ value, event' value = (event value).shimmed) :
    result.map event' = (result.map event).map Event.shimmed := by
  cases result with
  | ok value => exact congrArg Except.ok (h value)
  | error violation => rfl

theorem legacyText_eq (text : Bytes) : legacyText text = if text = [0] then [] else text := rfl

theorem plainEvent_shimmed (notification : Notification) :
    notification.plainEvent legacyText = (notification.plainEvent id).map Event.shimmed := by
  cases notification with
  | friendName friend name =>
    exact congrArg (fun text => Except.ok (Event.friendName friend text)) (legacyText_eq name)
  | friendStatusMessage friend message =>
    exact congrArg (fun text => Except.ok (Event.friendStatusMessage friend text))
      (legacyText_eq message)
  | selfConnectionStatus _ | friendStatus _ _ | friendConnectionStatus _ _ | friendMessage _ _ _
  | fileRecvControl _ _ _ | groupPeerStatus _ _ _ | groupPrivacyState _ _ | groupMessage _ _ _ _
  | groupJoinFail _ _ | groupModeration _ _ _ _ => exact map_shimmed fun _ => rfl
  | _ => rfl

/-- Away from files a session with a transfer table reads what one without reads, but for the shim,
and leaves the table alone. -/
theorem interpret_shimmed {notification : Notification} (plain : notification.isFile = false)
    (table : Transfer.Table) :
    notification.interpret (some table) = (notification.interpret none).map fun (events, _) =>
      (events.map Event.shimmed, some table) := by
  obtain ⟨notUnified, notLegacy⟩ := Bool.or_eq_false_iff.mp plain
  simp only [interpret, interpretLegacy_of_plain notLegacy, notUnified, Bool.false_eq_true,
    if_false, plainEvent_shimmed]
  cases notification.plainEvent id <;> rfl

end Notification

/-! ## Engines -/

/-- The step of a script is about a file. -/
def Signal.isFile : Signal → Bool
  | .notify notification => notification.isFile
  | .panic => false

/-- What a script fires stands in it. -/
theorem Fired.mem_of_ofScript {script : List Signal} {notification : Notification}
    (fired : notification ∈ (Fired.ofScript script).notifications) :
    .notify notification ∈ script := by
  induction script with
  | nil => cases fired
  | cons signal rest ih =>
    cases signal with
    | panic => cases fired
    | notify first =>
      rcases List.mem_cons.mp fired with rfl | later
      · exact List.mem_cons_self
      · exact List.mem_cons_of_mem _ (ih later)

namespace Recorded

/-- The engine that numbers files per direction and is the same otherwise, with the same calls made
to it. -/
def asLegacy (recorded : Recorded SimulatedEngine) : Recorded SimulatedEngine :=
  ⟨{ recorded.engine with addressing := .legacy }, recorded.calls⟩

def Fileless (recorded : Recorded SimulatedEngine) : Prop :=
  ∀ signal ∈ recorded.engine.script, signal.isFile = false

private theorem perform_asLegacy {c : Call} (asked : c ≠ .addressing)
    (recorded : Recorded SimulatedEngine) :
    Engine.perform c recorded.asLegacy =
      ((Engine.perform c recorded).1, (Engine.perform c recorded).2.asLegacy) := by
  obtain ⟨engine, calls⟩ := recorded
  by_cases fired : c = .iterate
  · subst fired
    rfl
  · have alike : SimulatedEngine.answer c
          (engine.disguised .legacy engine.iterations engine.script) =
        ((SimulatedEngine.answer c engine).1, (SimulatedEngine.answer c engine).2.disguised
          .legacy engine.iterations engine.script) :=
      SimulatedEngine.answer_disguised c asked fired engine
    obtain ⟨-, passes, script⟩ := SimulatedEngine.kept_answer fired engine
    have left : (SimulatedEngine.answer c engine).2.disguised .legacy engine.iterations
        engine.script = { (SimulatedEngine.answer c engine).2 with addressing := .legacy } := by
      rw [← passes, ← script]
      rfl
    rw [left] at alike
    exact Prod.ext (congrArg (·.1) alike)
      (congrArg (fun answered => (⟨answered.2, calls ++ [c]⟩ : Recorded SimulatedEngine)) alike)

/-- No call scripts anything. -/
theorem Fileless.perform {recorded : Recorded SimulatedEngine} (fileless : recorded.Fileless)
    (c : Call) : (Engine.perform c recorded).2.Fileless := by
  by_cases fired : c = .iterate
  · subst fired
    exact fun _ h => nomatch h
  · have script := (SimulatedEngine.kept_answer fired recorded.engine).2.2
    intro signal h
    exact fileless signal (script ▸ h)

end Recorded

/-! ## Held sessions -/

namespace HeldSession

/-- The session, if its engine numbered files per direction. -/
def shimmed (held : HeldSession (Recorded SimulatedEngine)) :
    HeldSession (Recorded SimulatedEngine) :=
  { held with
    events := held.events.shimmed
    transfers := some .empty
    engine := held.engine.asLegacy }

/-- Two sessions that have had nothing to do with files, the second one behind the shim. -/
structure Shims (first second : HeldSession (Recorded SimulatedEngine)) : Prop where
  tableless : first.transfers = none
  fileless : first.engine.Fileless
  same : second = first.shimmed

/-- Away from files, sessions go side by side before and behind the shim. -/
theorem parallel_shims (now : Timestamp) :
    Parallel (·.isFile = false) Shims now now where
  call c asked := by
    rintro first _ ⟨tableless, fileless, rfl⟩
    have kept := fileless.perform c
    simp only [call, shimmed, Recorded.perform_asLegacy asked]
    revert kept
    rcases Engine.perform c first.engine with ⟨answer, engine⟩
    intro kept
    cases answer with
    | none => exact ⟨rfl, tableless, kept, rfl⟩
    | some value => exact ⟨rfl, tableless, kept, rfl⟩
  fires {first _ fired} h iterated notification mem := by
    have scripted : fired = Fired.ofScript first.engine.engine.script :=
      (Outcome.ok.inj iterated).symm
    rw [scripted] at mem
    exact h.fileless _ (Fired.mem_of_ofScript mem)
  poison violation := by
    rintro first _ ⟨tableless, fileless, rfl⟩
    exact ⟨rfl, tableless, fileless, rfl⟩
  receive {notification} plain := by
    rintro first _ ⟨tableless, fileless, rfl⟩
    simp only [receive, shimmed, tableless, Notification.interpret_shimmed plain]
    simp only [Notification.interpret]
    cases notification.plainEvent id with
    | ok event => exact ⟨rfl, rfl, fileless, rfl⟩
    | error violation => exact ⟨rfl, tableless, fileless, rfl⟩
  takeOutbound := by
    rintro first _ ⟨tableless, fileless, rfl⟩
    simp only [takeOutbound, shimmed, tableless]
    exact ⟨rfl, rfl, fileless, rfl⟩
  requestChunks := by
    rintro first _ ⟨tableless, fileless, rfl⟩
    simp only [requestChunks, Run.modify_apply, shimmed, tableless]
    exact ⟨trivial, tableless, fileless, rfl⟩
  warnOfBacklog := by
    rintro first _ ⟨tableless, fileless, rfl⟩
    by_cases late : first.warnThreshold.toNat < first.events.length ∧ first.warned = false
    · have late' : first.shimmed.warnThreshold.toNat < first.shimmed.events.length ∧
          first.shimmed.warned = false := late
      simp only [warnOfBacklog, if_pos late, if_pos late']
      exact ⟨trivial, tableless, fileless, rfl⟩
    · have late' : ¬(first.shimmed.warnThreshold.toNat < first.shimmed.events.length ∧
          first.shimmed.warned = false) := late
      simp only [warnOfBacklog, if_neg late, if_neg late']
      exact ⟨trivial, tableless, fileless, rfl⟩

end HeldSession

/-! ## Sessions -/

namespace Session

/-- The session, if its engine numbered files per direction. The table goes with the engine. -/
def shimmed (session : Session (Recorded SimulatedEngine)) : Session (Recorded SimulatedEngine) :=
  { session with
    events := session.events.shimmed
    transfers := session.engine.map fun _ => .empty
    engine := session.engine.map Recorded.asLegacy }

structure Shims (first second : Session (Recorded SimulatedEngine)) : Prop where
  tableless : first.transfers = none
  fileless : ∀ engine, first.engine = some engine → engine.Fileless
  same : second = first.shimmed

theorem lifts_shims : Lifts Shims HeldSession.Shims where
  lockPoisoned h := by rw [h.same]; rfl
  violation h := by rw [h.same]; rfl
  handle h := by rw [h.same]; rfl
  held {first second} h := by
    obtain ⟨tableless, fileless, rfl⟩ := h
    cases held : first.engine with
    | none => exact .inl ⟨rfl, congrArg (Option.map _) held⟩
    | some engine =>
      refine .inr ⟨engine, _, rfl, congrArg (Option.map _) held, tableless, ?_, ?_⟩
      · exact fileless engine held
      · simp only [shimmed, HeldSession.shimmed, held, Option.map_some]
  back broken h := by
    obtain ⟨tableless, fileless, rfl⟩ := h
    exact ⟨tableless, fun _ held => Option.some.inj held ▸ fileless, rfl⟩

theorem Shims.engine {first second : Session (Recorded SimulatedEngine)} (h : Shims first second) :
    second.engine = first.engine.map Recorded.asLegacy := by rw [h.same]; rfl

theorem mirror_drain_shims :
    Run.Mirror Shims (fun batch batch' => batch' = batch.shimmed) drain drain := by
  rintro ⟨core, engine, broken⟩ _ ⟨tableless, fileless, rfl⟩
  cases broken with
  | true => exact ⟨.error _, tableless, fileless, rfl⟩
  | false => exact ⟨.ok (EventQueue.shimmed_drain core.events), tableless, fileless, rfl⟩

theorem mirror_release_shims :
    Run.Mirror Shims (fun engine engine' => engine' = engine.map Recorded.asLegacy) release
      release := by
  rintro ⟨core, engine, broken⟩ _ ⟨tableless, fileless, rfl⟩
  cases broken with
  | true => exact ⟨.error _, tableless, fileless, rfl⟩
  | false => exact ⟨.ok rfl, rfl, nofun, rfl⟩

private theorem subscribe_asLegacy (kinds : List NotificationKind)
    (recorded : Recorded SimulatedEngine) :
    subscribe kinds recorded.asLegacy =
      ((subscribe kinds recorded).1, (subscribe kinds recorded).2.asLegacy) := by
  induction kinds generalizing recorded with
  | nil => rfl
  | cons kind rest ih =>
    simp only [subscribe, Recorded.perform_asLegacy (c := .register kind) nofun]
    rcases Engine.perform (.register kind) recorded with ⟨_ | _, engine⟩
    · rfl
    · exact ih engine

private theorem fileless_subscribe (kinds : List NotificationKind)
    {recorded : Recorded SimulatedEngine} (fileless : recorded.Fileless) :
    (subscribe kinds recorded).2.Fileless := by
  induction kinds generalizing recorded with
  | nil => exact fileless
  | cons kind rest ih =>
    have kept := fileless.perform (.register kind)
    simp only [subscribe]
    revert kept
    rcases Engine.perform (.register kind) recorded with ⟨_ | _, engine⟩
    · exact id
    · exact ih

theorem agree_subscribeAll_shims : Run.Agree Shims subscribeAll subscribeAll := by
  rintro ⟨core, engine, broken⟩ _ ⟨tableless, fileless, rfl⟩
  cases broken with
  | true => exact ⟨rfl, tableless, fileless, rfl⟩
  | false =>
    cases engine with
    | none => exact ⟨rfl, tableless, fileless, rfl⟩
    | some engine =>
      have kept := fileless_subscribe NotificationKind.all (fileless engine rfl)
      have asked := subscribe_asLegacy NotificationKind.all engine
      simp only [subscribeAll, shimmed, Bool.false_eq_true, if_false, Option.map_some, asked]
      revert kept
      rcases subscribe NotificationKind.all engine with ⟨_ | _, left⟩
      · exact fun kept => ⟨rfl, tableless, fun _ held => Option.some.inj held ▸ kept, rfl⟩
      · exact fun kept => ⟨rfl, tableless, fun _ held => Option.some.inj held ▸ kept, rfl⟩

end Session

end Switchboard
