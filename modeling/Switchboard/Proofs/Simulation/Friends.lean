import Mathlib.Data.List.Nodup
import Switchboard.Proofs.Keyed
import Switchboard.Proofs.Recorded
import Switchboard.Proofs.Simulation.Holdings
/-!
# The friends of a simulated engine

Whatever is done to a simulated engine (`Move`), its friends have different keys, the number of a
friend and its key are found from each other, and a number that was given once is not given again
(`friends_in_bijection`).

Numbers are given in their order, one for each friend that is added. As long as they do not run out,
the next number is therefore above all that were given (`Enlisted`, `Enlists`).
-/

namespace Switchboard

namespace Keyed

variable {κ α : Type} [Ranked κ]

/-- A key that was not bound is one binding more. -/
theorem perm_put {key : κ} {map : Keyed κ α}
    (absent : ∀ binding ∈ map, Ranked.rank binding.1 ≠ Ranked.rank key) (value : α) :
    (put key value map).Perm ((key, value) :: map) := by
  induction map with
  | nil => exact .refl _
  | cons first rest ih =>
    obtain ⟨k, v⟩ := first
    unfold put
    split
    · exact .refl _
    · rw [if_neg (absent (k, v) List.mem_cons_self)]
      have later := ih fun binding h => absent binding (List.mem_cons_of_mem _ h)
      exact (later.cons _).trans (.swap _ _ _)

end Keyed

namespace SimulatedEngine

/-! ## What is done to an engine -/

/-- One thing done to an engine: a call, or a change from outside. -/
inductive Move where
  | call (c : Call)
  | tweak (made : Tweak)

def Move.apply : Move → SimulatedEngine → SimulatedEngine
  | .call c, engine => (answer c engine).2
  | .tweak made, engine => made.apply engine

def applyAll : List Move → SimulatedEngine → SimulatedEngine
  | [], engine => engine
  | move :: rest, engine => applyAll rest (move.apply engine)

/-- A number was given to a friend with this key, or taken from its friend. -/
inductive Deed where
  | given (friend : UInt32) (key : Bytes)
  | taken (friend : UInt32)
  deriving DecidableEq, Repr

/-- What a move did to the friends; one that failed did nothing. -/
def Move.deed? : Move → SimulatedEngine → Option Deed
  | .call (.friendAdd address message), engine =>
    (value? (answer (.friendAdd address message) engine).1).map fun friend =>
      .given friend (address.bytes.take 32)
  | .call (.friendAddNorequest key), engine =>
    (value? (answer (.friendAddNorequest key) engine).1).map fun friend => .given friend key.bytes
  | .call (.friendDelete friend), engine =>
    (value? (answer (.friendDelete friend) engine).1).map fun _ => .taken friend
  | .tweak (.addFriend key), engine =>
    (value? (some (engine.addFriend key).1)).map fun friend => .given friend key.bytes
  | _, _ => none

def deeds : List Move → SimulatedEngine → List Deed
  | [], _ => []
  | move :: rest, engine => (move.deed? engine).toList ++ deeds rest (move.apply engine)

def additions (done : List Deed) : Nat :=
  done.countP fun
    | .given _ _ => true
    | .taken _ => false

def keys (engine : SimulatedEngine) : List Bytes := engine.friends.map (·.2.bytes)

private theorem bytes_mem_keys {engine : SimulatedEngine} {key : PublicKey} :
    key.bytes ∈ engine.keys ↔ key ∈ engine.friends.map (·.2) := by
  simp [keys, Block.bytes_inj]

/-! ## What a move does to the friends -/

section Report

variable {α : Type} {operation : Operation} {engine : SimulatedEngine}

/-- Whoever gets a value was answered by the engine. -/
theorem of_value_report {answer : SimulatedEngine → Reported α × SimulatedEngine} {value : α}
    (h : value? (report operation engine answer).1 = some value) :
    (answer engine).1 = .ok value := by
  rcases report_cases operation engine answer with answered | ⟨code, failed⟩
  · rw [answered] at h
    exact value?_some_eq_some_iff.mp h
  · rw [failed] at h
    cases h

end Report

/-- A friend is added under the next number, if no friend has its key. -/
theorem addFriend_eq (key : PublicKey) (engine : SimulatedEngine) :
    (engine.addFriend key).1 =
      if key.bytes ∈ engine.keys then refusal .friendAdd .alreadySent
      else .ok engine.nextFriend := by
  have known : engine.friends.any (·.2 = key) = true ↔ key.bytes ∈ engine.keys := by
    rw [bytes_mem_keys]
    simp
  rw [addFriend]
  by_cases h : key.bytes ∈ engine.keys
  · rw [if_pos (known.mpr h), if_pos h]
    rfl
  · rw [if_neg fun e => h (known.mp e), if_neg h]

private theorem of_addFriend_eq_ok {key : PublicKey} {engine : SimulatedEngine} {friend : UInt32}
    (h : (engine.addFriend key).1 = .ok friend) :
    key ∉ engine.friends.map (·.2) ∧ friend = engine.nextFriend := by
  rw [addFriend_eq] at h
  split at h
  · cases h
  · rename_i new
    cases h
    exact ⟨fun known => new (bytes_mem_keys.mpr known), rfl⟩

/-- What a deed makes of the friends and of the next number. -/
inductive Became (before after : Holdings) : Option Deed → Prop where
  | same (friends : after.friends = before.friends) (next : after.nextFriend = before.nextFriend) :
    Became before after none
  /-- Nobody had the key. -/
  | given (key : PublicKey) (new : key ∉ before.friends.map (·.2))
    (friends : after.friends = Keyed.put before.nextFriend key before.friends)
    (next : after.nextFriend = before.nextFriend + 1) :
    Became before after (some (.given before.nextFriend key.bytes))
  /-- The number was that of a friend. -/
  | taken (friend : UInt32) (key : PublicKey) (live : (friend, key) ∈ before.friends)
    (friends : after.friends = Keyed.erase friend before.friends)
    (next : after.nextFriend = before.nextFriend) :
    Became before after (some (.taken friend))

/-- What leaves the friends alone leaves them alone whether it fails or not. -/
theorem became_reported {α : Type} {answer : Option (Reported α)} {change : α → Holdings → Holdings}
    {before : Holdings} (aside : ∀ value, Became before (change value before) none) :
    Became before (Holdings.reported change answer before) none := by
  cases h : value? answer with
  | none =>
    rw [Holdings.reported_of_no_value h]
    exact .same rfl rfl
  | some value =>
    rw [Holdings.reported_of_value h]
    exact aside value

/-- An addition gives the next number to a new key, or it failed. -/
theorem became_of_added {answer : Option (Reported UInt32)} {key : PublicKey}
    {engine : SimulatedEngine} {after : Holdings}
    (held : after =
      Holdings.reported (fun friend => Holdings.befriend friend key) answer engine.holdings)
    (new : ∀ friend, value? answer = some friend →
      key ∉ engine.friends.map (·.2) ∧ friend = engine.nextFriend) :
    Became engine.holdings after ((value? answer).map fun friend => .given friend key.bytes) := by
  subst held
  cases h : value? answer with
  | none =>
    rw [Holdings.reported_of_no_value h]
    exact .same rfl rfl
  | some friend =>
    obtain ⟨absent, rfl⟩ := new friend h
    rw [Holdings.reported_of_value h]
    exact .given key absent rfl rfl

private theorem became_answer (call : Call) (engine : SimulatedEngine) :
    Became engine.holdings (answer call engine).2.holdings ((Move.call call).deed? engine) := by
  have held := holdings_answer call engine
  cases call with
  | friendAdd address message =>
    refine became_of_added held fun friend h => ?_
    have added := of_value_report h
    split at added
    · cases added
    split at added
    · cases added
    exact of_addFriend_eq_ok added
  | friendAddNorequest key =>
    exact became_of_added held fun friend h => of_addFriend_eq_ok (of_value_report h)
  | friendDelete friend =>
    cases h : value? (answer (.friendDelete friend) engine).1 with
    | none =>
      rw [Holdings.answered, Holdings.reported_of_no_value h] at held
      rw [held, Move.deed?, h]
      exact .same rfl rfl
    | some done =>
      have deleted := of_value_report h
      split at deleted
      · rename_i key found
        rw [Holdings.answered, Holdings.reported_of_value h] at held
        rw [held, Move.deed?, h]
        exact .taken friend key (Keyed.mem_of_get? found) rfl rfl
      · cases deleted
  | setName _ | groupSetTopic _ _ | groupLeave _ _ =>
    exact held ▸ became_reported fun _ => .same rfl rfl
  | _ =>
    rw [held]
    exact .same rfl rfl

theorem became_apply (move : Move) (engine : SimulatedEngine) :
    Became engine.holdings (move.apply engine).holdings (move.deed? engine) := by
  cases move with
  | call call => exact became_answer call engine
  | tweak made =>
    cases made with
    | addFriend key =>
      exact became_of_added (holdings_addFriend key engine) fun friend h =>
        of_addFriend_eq_ok (value?_some_eq_some_iff.mp h)
    | script _ | failNext _ _ | addGroup _ | setStatus _ => exact .same rfl rfl

/-! ## Numbers in their order -/

/-- Numbers are given in their order from a first one on, and taken after they were given. -/
def Enlists : Nat → List Deed → Prop
  | _, [] => True
  | count, .given friend _ :: rest => friend.toNat = count ∧ Enlists (count + 1) rest
  | count, .taken friend :: rest => friend.toNat < count ∧ Enlists count rest

@[simp]
theorem additions_nil : additions [] = 0 := rfl

@[simp]
theorem additions_given (friend : UInt32) (key : Bytes) (rest : List Deed) :
    additions (.given friend key :: rest) = additions rest + 1 := List.countP_cons_of_pos rfl

@[simp]
theorem additions_taken (friend : UInt32) (rest : List Deed) :
    additions (.taken friend :: rest) = additions rest := List.countP_cons_of_neg Bool.false_ne_true

private theorem Enlists.of_append {count : Nat} {before after : List Deed}
    (h : Enlists count (before ++ after)) :
    Enlists count before ∧ Enlists (count + additions before) after := by
  induction before generalizing count with
  | nil => exact ⟨trivial, h⟩
  | cons deed rest ih =>
    cases deed with
    | given friend key =>
      obtain ⟨here, later⟩ := ih h.2
      exact ⟨⟨h.1, here⟩, by rwa [additions_given, Nat.add_comm _ 1, ← Nat.add_assoc]⟩
    | taken friend =>
      obtain ⟨here, later⟩ := ih h.2
      exact ⟨⟨h.1, here⟩, later⟩

/-- The numbers that are given are those from the first one on, as many as friends are added. -/
theorem Enlists.given_mem_iff {count : Nat} {done : List Deed} (h : Enlists count done)
    (friend : UInt32) :
    (∃ key, .given friend key ∈ done) ↔
      count ≤ friend.toNat ∧ friend.toNat < count + additions done := by
  induction done generalizing count with
  | nil => simp
  | cons deed rest ih =>
    cases deed with
    | given other key =>
      have here : friend = other ↔ friend.toNat = count := by
        rw [← h.1]
        exact UInt32.toNat_inj.symm
      simp only [List.mem_cons, Deed.given.injEq, exists_or, exists_and_left, exists_eq, and_true,
        here, ih h.2, additions_given]
      omega
    | taken other => simp [ih h.2]

/-- A number that is taken was given before and is not given again. -/
theorem Enlists.of_taken {before after : List Deed} {friend : UInt32}
    (h : Enlists 0 (before ++ .taken friend :: after)) :
    (∃ key, .given friend key ∈ before) ∧ ∀ key, .given friend key ∉ after := by
  obtain ⟨first, given, last⟩ := h.of_append
  rw [first.given_mem_iff, ← not_exists, last.given_mem_iff]
  omega

/-- The friends of an engine have different keys and numbers below the next one. -/
structure Enlisted (held : Holdings) : Prop where
  sorted : Keyed.Sorted held.friends
  distinct : (held.friends.map (·.2)).Nodup
  below : ∀ binding ∈ held.friends, binding.1.toNat < held.nextFriend.toNat

private theorem Enlisted.next_absent {held : Holdings} (h : Enlisted held) :
    ∀ binding ∈ held.friends, Ranked.rank binding.1 ≠ Ranked.rank held.nextFriend :=
  fun binding hm => Nat.ne_of_lt (h.below binding hm)

theorem Enlisted.became {before after : Holdings} {deed : Option Deed} (h : Enlisted before)
    (step : Became before after deed)
    (few : before.nextFriend.toNat + additions deed.toList < 4294967296) :
    Enlisted after ∧
      after.nextFriend.toNat = before.nextFriend.toNat + additions deed.toList := by
  cases step with
  | same friends next =>
    rw [next]
    exact ⟨⟨friends ▸ h.sorted, friends ▸ h.distinct, by rw [friends, next]; exact h.below⟩, rfl⟩
  | given key new friends next =>
    have grown : after.nextFriend.toNat = before.nextFriend.toNat + 1 := by
      have := few
      simp only [Option.toList_some, additions_given, additions_nil] at this
      rw [next, UInt32.toNat_add]
      exact Nat.mod_eq_of_lt this
    have moved := Keyed.perm_put h.next_absent key
    refine ⟨⟨friends ▸ h.sorted.put _ _, ?_, fun binding hm => ?_⟩, grown⟩
    · rw [friends, (moved.map _).nodup_iff]
      exact List.nodup_cons.mpr ⟨new, h.distinct⟩
    · rw [grown]
      rw [friends] at hm
      rcases Keyed.mem_put hm with rfl | hm
      · exact Nat.lt_succ_self _
      · exact Nat.lt_succ_of_lt (h.below binding hm)
  | taken friend key live friends next =>
    have fewer : (Keyed.erase friend before.friends).Sublist before.friends :=
      List.filter_sublist
    refine ⟨⟨friends ▸ h.sorted.erase _, ?_, fun binding hm => ?_⟩, by rw [next]; rfl⟩
    · rw [friends]
      exact h.distinct.sublist (fewer.map _)
    · rw [next]
      exact h.below binding (fewer.subset (friends ▸ hm))

private theorem Enlisted.enlists {before after : Holdings} {deed : Option Deed} {rest : List Deed}
    (h : Enlisted before) (step : Became before after deed)
    (later : Enlists (before.nextFriend.toNat + additions deed.toList) rest) :
    Enlists before.nextFriend.toNat (deed.toList ++ rest) := by
  cases step with
  | same _ _ => exact later
  | given _ _ _ _ => exact ⟨rfl, later⟩
  | taken friend key live _ _ => exact ⟨h.below _ live, later⟩

/-- A friend is there after a deed if it was there or is given its number by it, and the number is
not taken. -/
theorem Became.mem_iff {before after : Holdings} {deed : Option Deed}
    (step : Became before after deed) (h : Enlisted before) (friend : UInt32) (key : PublicKey) :
    (friend, key) ∈ after.friends ↔
      ((friend, key) ∈ before.friends ∨ .given friend key.bytes ∈ deed.toList) ∧
        .taken friend ∉ deed.toList := by
  cases step with
  | same friends _ => simp [friends]
  | given new _ friends _ =>
    rw [friends, (Keyed.perm_put h.next_absent new).mem_iff]
    simp [Block.bytes_inj, or_comm]
  | taken other _ _ friends _ =>
    have ranks : Ranked.rank friend = Ranked.rank other ↔ friend = other := UInt32.toNat_inj
    simp [friends, Keyed.erase, ranks]

theorem Enlisted.not_given {before after : Holdings} {deed : Option Deed} {rest : List Deed}
    (h : Enlisted before) (step : Became before after deed)
    (later : Enlists (before.nextFriend.toNat + additions deed.toList) rest) {friend : UInt32}
    (gone : .taken friend ∈ deed.toList) (key : Bytes) : .given friend key ∉ rest := by
  cases step with
  | same _ _ => cases gone
  | given _ _ _ _ => simp at gone
  | taken other _ live _ _ =>
    obtain rfl : friend = other := by simpa using gone
    intro given
    have above := (later.given_mem_iff friend).mp ⟨key, given⟩
    have below : friend.toNat < before.nextFriend.toNat := h.below _ live
    omega

theorem enlisted_applyAll {moves : List Move} {engine : SimulatedEngine}
    (h : Enlisted engine.holdings)
    (few : engine.nextFriend.toNat + additions (deeds moves engine) < 4294967296) :
    Enlisted (applyAll moves engine).holdings ∧
      Enlists engine.nextFriend.toNat (deeds moves engine) ∧
      ∀ friend key, (friend, key) ∈ (applyAll moves engine).friends ↔
        ((friend, key) ∈ engine.friends ∨ .given friend key.bytes ∈ deeds moves engine) ∧
          .taken friend ∉ deeds moves engine := by
  induction moves generalizing engine with
  | nil => exact ⟨h, trivial, fun friend key => by simp [deeds, applyAll]⟩
  | cons move rest ih =>
    have step := became_apply move engine
    have counted : additions (deeds (move :: rest) engine) =
        additions (move.deed? engine).toList + additions (deeds rest (move.apply engine)) :=
      List.countP_append
    rw [counted] at few
    obtain ⟨enlisted, next⟩ := h.became step (show engine.nextFriend.toNat + _ < _ by omega)
    replace next : (move.apply engine).nextFriend.toNat =
      engine.nextFriend.toNat + additions (move.deed? engine).toList := next
    obtain ⟨last, later, mem_iff⟩ := ih enlisted (by omega)
    refine ⟨last, h.enlists step (next ▸ later), fun friend key => ?_⟩
    have first : (friend, key) ∈ (move.apply engine).friends ↔
        ((friend, key) ∈ engine.friends ∨ .given friend key.bytes ∈ (move.deed? engine).toList) ∧
          .taken friend ∉ (move.deed? engine).toList := step.mem_iff h friend key
    rw [applyAll, mem_iff, first, deeds, List.mem_append, List.mem_append]
    by_cases gone : .taken friend ∈ (move.deed? engine).toList
    · have absent := h.not_given step (next ▸ later) gone key.bytes
      simp [gone, absent]
    · simp [gone, or_assoc]

/-! ## Numbers and keys -/

/-- The two ways to look a friend up agree. -/
theorem Enlisted.friendWithKey?_eq_some_iff {engine : SimulatedEngine}
    (h : Enlisted engine.holdings) {key : PublicKey} {friend : UInt32} :
    engine.friendWithKey? key = some friend ↔ Keyed.get? friend engine.friends = some key := by
  constructor
  · intro found
    obtain ⟨binding, first, rfl⟩ := Option.map_eq_some_iff.mp found
    have known : binding.2 = key := by simpa using List.find?_some first
    subst known
    exact h.sorted.get?_of_mem (List.mem_of_find?_eq_some first)
  · intro bound
    have live := Keyed.mem_of_get? bound
    obtain ⟨binding, first⟩ : ∃ binding, engine.friends.find? (·.2 = key) = some binding :=
      Option.isSome_iff_exists.mp (List.find?_isSome.mpr ⟨_, live, by simp⟩)
    have known : binding.2 = key := by simpa using List.find?_some first
    have same : binding = (friend, key) :=
      List.inj_on_of_nodup_map h.distinct (List.mem_of_find?_eq_some first) live known
    rw [friendWithKey?, first, same]
    rfl

/-- A call that was answered with a code did nothing to the friends. -/
theorem deed?_of_code {call : Call} {engine : SimulatedEngine} {code : UInt32}
    (failed : Exchange.code? ⟨call, (answer call engine).1⟩ = some code) :
    (Move.call call).deed? engine = none := by
  have unvalued {α : Type} {answer : Option (Reported α)}
      (h : answer.bind Reported.code? = some code) : value? answer = none := by
    obtain ⟨reported, rfl, coded⟩ := Option.bind_eq_some_iff.mp h
    cases reported with
    | ok value => cases coded
    | error code => rfl
  cases call with
  | friendAdd _ _ | friendAddNorequest _ | friendDelete _ =>
    exact congrArg (Option.map _) (unvalued failed)
  | _ => rfl

/-- The friends of an engine and their keys belong together. -/
structure Acquainted (engine : SimulatedEngine) : Prop where
  /-- No two friends have the same key. -/
  distinct : engine.keys.Nodup
  /-- A friend is found by a key if and only if the key is found by the friend. -/
  lookup (byKey : engine.Unhindered .friendByPublicKey)
    (byFriend : engine.Unhindered .friendGetPublicKey) (key : PublicKey) (friend : UInt32) :
    (answer (.friendByPublicKey key) engine).1 = some (.ok friend) ↔
      (answer (.friendPublicKey friend) engine).1 = some (.ok key)
  /-- With an admissible message a friend is added unless one has the key. -/
  add (free : engine.Unhindered .friendAdd) (address : Address) (message : Bytes)
    (filled : message ≠ []) (short : message.length ≤ maxMessage) :
    (answer (.friendAdd address message) engine).1 =
      some (if address.bytes.take 32 ∈ engine.keys then refusal .friendAdd .alreadySent
        else .ok engine.nextFriend)
  addNorequest (free : engine.Unhindered .friendAdd) (key : PublicKey) :
    (answer (.friendAddNorequest key) engine).1 =
      some (if key.bytes ∈ engine.keys then refusal .friendAdd .alreadySent
        else .ok engine.nextFriend)
  addOutside (key : PublicKey) :
    (engine.addFriend key).1 =
      if key.bytes ∈ engine.keys then refusal .friendAdd .alreadySent else .ok engine.nextFriend
  /-- A call that fails leaves the friends as they are. -/
  failed (call : Call) (code : UInt32)
    (coded : Exchange.code? ⟨call, (answer call engine).1⟩ = some code) :
    (answer call engine).2.friends = engine.friends
  failedOutside (key : PublicKey) (code : UInt32) (coded : (engine.addFriend key).1 = .error code) :
    (engine.addFriend key).2 = engine

private theorem Enlisted.acquainted {engine : SimulatedEngine} (h : Enlisted engine.holdings) :
    engine.Acquainted where
  distinct := by
    have distinct : (engine.friends.map (·.2)).Nodup := h.distinct
    have bytes := distinct.map fun _ _ => Block.bytes_inj.mp
    rwa [List.map_map] at bytes
  lookup byKey byFriend key friend := by
    have agree : engine.friendWithKey? key = some friend ↔
        Keyed.get? friend engine.friends = some key := h.friendWithKey?_eq_some_iff
    have found : (answer (.friendByPublicKey key) engine).1 = some (.ok friend) ↔
        engine.friendWithKey? key = some friend := by
      simp only [answer, report_of_unhindered byKey]
      cases engine.friendWithKey? key <;> simp [refusal]
    have bound : (answer (.friendPublicKey friend) engine).1 = some (.ok key) ↔
        Keyed.get? friend engine.friends = some key := by
      simp only [answer, report_of_unhindered byFriend]
      cases Keyed.get? friend engine.friends <;> simp [refusal]
    rw [found, agree, bound]
  add free address message filled short := by
    simp only [answer, report_of_unhindered free, if_neg filled, if_neg (Nat.not_lt.mpr short),
      addFriend_eq]
    rfl
  addNorequest free key := by
    simp only [answer, report_of_unhindered free, addFriend_eq]
  addOutside key := addFriend_eq key engine
  failed call code coded := by
    have step := became_answer call engine
    rw [deed?_of_code coded] at step
    cases step with
    | same friends next => exact friends
  failedOutside key code coded := by
    rw [addFriend] at coded ⊢
    split
    · rfl
    · rename_i new
      rw [if_neg new] at coded
      cases coded

/-- Whatever is done to a simulated engine, failures included, as long as its numbers last, friends
and keys are found from each other. Its friends are those that were given a number that was not
taken since, and a number that is taken was given before and is not given again. -/
theorem friends_in_bijection (number : Nat) (addressing : Addressing) (settings : EngineSettings)
    (moves : List Move)
    (few : additions (deeds moves (make number addressing settings)) < 4294967296) :
    (applyAll moves (make number addressing settings)).Acquainted ∧
      (∀ friend key, (friend, key) ∈ (applyAll moves (make number addressing settings)).friends ↔
        .given friend key.bytes ∈ deeds moves (make number addressing settings) ∧
          .taken friend ∉ deeds moves (make number addressing settings)) ∧
      ∀ before after friend,
        deeds moves (make number addressing settings) = before ++ .taken friend :: after →
          (∃ key, .given friend key ∈ before) ∧ ∀ key, .given friend key ∉ after := by
  have start : Enlisted (make number addressing settings).holdings :=
    ⟨Keyed.sorted_nil, List.nodup_nil, fun binding hm => nomatch hm⟩
  obtain ⟨enlisted, enlists, mem_iff⟩ :=
    enlisted_applyAll start (by rwa [make, UInt32.toNat_zero, Nat.zero_add])
  refine ⟨enlisted.acquainted, fun friend key => ?_,
    fun before after friend h => Enlists.of_taken (h ▸ enlists)⟩
  have alone : (friend, key) ∉ (make number addressing settings).friends := List.not_mem_nil
  rw [mem_iff, or_iff_right alone]

def keyOf (byte : UInt8) : PublicKey := ⟨List.replicate 32 byte, List.length_replicate⟩

/-- A friend is added twice, another one at the second try, and the first one leaves and comes
back. -/
def reunion : List Move :=
  [.tweak (.addFriend (keyOf 1)), .call (.friendAddNorequest (keyOf 1)),
    .tweak (.failNext .friendAdd 4), .call (.friendAddNorequest (keyOf 2)),
    .call (.friendAddNorequest (keyOf 2)), .call (.friendDelete 0),
    .call (.friendAdd ⟨List.replicate 38 1, List.length_replicate⟩ [104, 105])]

def reunited : List Deed :=
  [.given 0 (keyOf 1).bytes, .given 1 (keyOf 2).bytes, .taken 0, .given 2 (keyOf 1).bytes]

theorem friends_in_bijection_reunion :
    deeds reunion (make 1 .unified {}) = reunited ∧
      (answer (.friendByPublicKey (keyOf 1)) (applyAll reunion (make 1 .unified {}))).1 =
        some (.ok 2) ∧
      (applyAll reunion (make 1 .unified {})).Acquainted ∧
      (2, keyOf 1) ∈ (applyAll reunion (make 1 .unified {})).friends ∧
      (0, keyOf 1) ∉ (applyAll reunion (make 1 .unified {})).friends ∧
      ∀ key, Deed.given 0 key ∉ [.given 2 (keyOf 1).bytes] := by
  have done : deeds reunion (make 1 .unified {}) = reunited := by decide +kernel
  obtain ⟨acquainted, live, fresh⟩ :=
    friends_in_bijection 1 .unified {} reunion (by rw [done]; decide)
  rw [done] at live fresh
  refine ⟨done, ?_, acquainted, (live 2 _).mpr (by decide), fun found => ?_, ?_⟩
  · exact (acquainted.lookup (by decide +kernel) (by decide +kernel) (keyOf 1) 2).mpr
      (by decide +kernel)
  · exact ((live 0 _).mp found).2 (by decide)
  · exact (fresh [.given 0 (keyOf 1).bytes, .given 1 (keyOf 2).bytes] _ 0 rfl).2

end SimulatedEngine

end Switchboard
