import StickyRouting.Proofs.Store.Ideal
import StickyRouting.Proofs.Store.Readable
import StickyRouting.Proofs.Text.ByteOrder

set_option autoImplicit false

namespace StickyRouting.Store

open Embedded (live valueOf stored Readable records)

/-- The table holds what the ideal map holds, and may be late to forget. -/
structure Related (last : Nat) (table : Table) (map : Ideal.Bindings) : Prop where
  readable : Readable table
  agrees : ∀ key, Ideal.Agrees last ((records table).get? key) (map.get? key)

namespace Related

variable {last now : Nat} {table : Table} {map : Ideal.Bindings}

theorem empty (last : Nat) : Related last ∅ ∅ := ⟨Embedded.readable_empty, fun _ _ _ => rfl⟩

theorem of_readable (last : Nat) (readable : Readable table) : Related last table (records table) :=
  ⟨readable, fun _ => .refl _ _⟩

theorem of_stored
    (each : ∀ key, ∃ record, stored table key = .ok record ∧ Ideal.Agrees last record (map.get? key)) :
    Related last table map := by
  have readable : Readable table := fun key => (each key).imp fun _ h => h.1
  refine ⟨readable, fun key => ?_⟩
  obtain ⟨record, here, agrees⟩ := each key
  rw [Embedded.stored_of_readable readable] at here
  exact Except.ok.inj here ▸ agrees

theorem live_eq (related : Related last table map) (forward : last ≤ now) (key : String) :
    live now ((records table).get? key) = live now (map.get? key) :=
  related.agrees key now forward

theorem current (related : Related last table map) (forward : last ≤ now) :
    Related now table (Ideal.current now map) := by
  refine ⟨related.readable, fun key => ?_⟩
  rw [Ideal.get?_current]
  exact (related.agrees key).live_right forward

theorem current_eq (related : Related last table map) (forward : last ≤ now) :
    Ideal.current now (records table) = Ideal.current now map := by
  ext1 key
  rw [Ideal.get?_current, Ideal.get?_current, related.live_eq forward]

end Related

variable {last now : Nat} {table : Table} {map : Ideal.Bindings}

theorem listed_eq (now : Nat) (rows : List (String × Record)) :
    rows.filterMap (Embedded.listed now) =
      (rows.filter fun row => now < row.2.deadline).map (Ideal.entry now) := by
  induction rows with
  | nil => rfl
  | cons row rows ih =>
    by_cases due : row.2.deadline ≤ now
    · simp [Embedded.listed, Record.isExpired, due, Nat.not_lt.2 due, ih]
    · simp [Embedded.listed, Record.isExpired, due, Nat.not_le.1 due, ih, Ideal.entry]

theorem entries_related (related : Related last table map) (forward : last ≤ now)
    (start : Option String) :
    Embedded.entries now table start = (Ideal.operate now (.entries start) map).1 := by
  rw [Embedded.entries_of_readable related.readable, Ideal.operate, ← related.current_eq forward,
    listed_eq, List.filter_filter]
  simp only [Ideal.current, KeyMap.filter, List.filter_filter, Bool.and_comm]

theorem perform_related (related : Related last table map) (forward : last ≤ now) (call : Call) :
    (Embedded.perform now call table).1 = (Ideal.perform now call map).1 ∧
      Related now (Embedded.perform now call table).2 (Ideal.perform now call map).2 := by
  have seen (key : String) : valueOf (live now ((records table).get? key)) =
      Ideal.value? (Ideal.current now map) key := by
    rw [Ideal.value?_current, related.live_eq forward]
  cases about : call.target? with
  | none =>
    cases call <;> simp only [Call.target?, reduceCtorEq] at about
    case get key =>
      rw [Embedded.perform_get_of_readable related.readable]
      exact ⟨congrArg _ (seen key), related.current forward⟩
    case getAll keys =>
      rw [Embedded.perform_getAll_of_readable related.readable]
      simp only [seen]
      exact ⟨rfl, related.current forward⟩
  | some key =>
    have here := Embedded.stored_of_readable related.readable key
    obtain ⟨after, change, stores⟩ := Embedded.perform_change now about here
    obtain ⟨answers, held, others⟩ :=
      Ideal.perform_of_change forward about change (related.agrees key)
    refine ⟨answers.symm, Related.of_stored fun other => ?_⟩
    rw [stores other]
    by_cases same : other = key
    · subst same
      exact ⟨after, if_pos rfl, held⟩
    · refine ⟨_, by rw [if_neg same, Embedded.stored_of_readable related.readable], ?_⟩
      rw [others other same]
      exact (related.agrees other).live_right forward

/-- A purge tells how many records it removed, which is nothing that the ideal store knows of. -/
def Event.uncounted : Event → Event
  | ⟨now, .purge, .ok _⟩ => ⟨now, .purge, .ok 0⟩
  | event => event

def Operation.isPurge : Operation → Bool
  | .purge => true
  | _ => false

theorem operate_related (related : Related last table map) (forward : last ≤ now)
    (operation : Operation) :
    Event.uncounted ⟨now, operation, (Embedded.operate now operation table).1⟩ =
        Event.uncounted ⟨now, operation, (Ideal.operate now operation map).1⟩ ∧
      Related now (Embedded.operate now operation table).2 (Ideal.operate now operation map).2 := by
  cases operation with
  | call call =>
    obtain ⟨answers, states⟩ := perform_related related forward call
    exact ⟨congrArg (fun answer => Event.uncounted ⟨now, .call call, answer⟩) answers, states⟩
  | remaining key =>
    refine ⟨congrArg (fun answer => Event.uncounted ⟨now, .remaining key, answer⟩) ?_,
      related.current forward⟩
    rw [Embedded.operate, Embedded.remaining_of_readable related.readable, Ideal.operate,
      Ideal.get?_current, related.live_eq forward]
  | entries start =>
    exact ⟨congrArg (fun answer => Event.uncounted ⟨now, .entries start, answer⟩)
      (entries_related related forward start), related.current forward⟩
  | purge =>
    obtain ⟨⟨count, counted⟩, stores⟩ := Embedded.purge_of_readable related.readable now
    refine ⟨?_, Related.of_stored fun key => ⟨_, stores key, ?_⟩⟩
    · rw [Embedded.operate, counted]
      rfl
    · intro later after
      rw [Embedded.live_live after]
      exact related.agrees key later (Nat.le_trans forward after)

def Event.Ascending : Event → Prop
  | ⟨_, .entries _, .ok rows⟩ => rows.Pairwise fun a b =>
    Text.Utf8.encode a.key.toList < Text.Utf8.encode b.key.toList
  | _ => True

theorem isPurge_uncounted (event : Event) :
    event.uncounted.operation.isPurge = event.operation.isPurge := by
  unfold Event.uncounted
  split <;> rfl

theorem uncounted_of_not_purge {event : Event} (h : event.operation.isPurge = false) :
    event.uncounted = event := by
  unfold Event.uncounted
  split
  · simp [Operation.isPurge] at h
  · rfl

theorem ascending_uncounted {event : Event} (h : event.uncounted.Ascending) : event.Ascending := by
  unfold Event.uncounted at h
  split at h
  · trivial
  · exact h

namespace Ideal

theorem uncounted_run (history : History) (map : Bindings) :
    (run operate history map).1.map Event.uncounted = (run operate history map).1 := by
  refine List.map_congr_left (fun event member => ?_) |>.trans (List.map_id _)
  obtain ⟨now, operation, s, -, rfl⟩ := mem_run member
  cases operation <;> rfl

theorem run_without_purges (history : History) (map : Bindings) :
    (run operate (history.filter fun step => !step.2.isPurge) map).1 =
      (run operate history map).1.filter fun event => !event.operation.isPurge := by
  induction history generalizing map with
  | nil => rfl
  | cons step rest ih =>
    obtain ⟨now, operation⟩ := step
    cases purge : operation.isPurge with
    | false => simp [purge, ih]
    | true =>
      have same : (operate now operation map).2 = map := by
        cases operation <;> simp only [Operation.isPurge, Bool.false_eq_true] at purge
        rfl
      simp [purge, ih, same]

theorem ascending_entries (now : Nat) (start : Option String) (map : Bindings) :
    Event.Ascending ⟨now, .entries start, (operate now (.entries start) map).1⟩ := by
  have ordered := (current now map).ascending.filter fun row =>
    (start.getD "").toList.isPrefixOf row.1.toList
  exact List.pairwise_map.2 (ordered.imp fun less => Text.Utf8.encode_lt_encode less)

theorem ascending_run {history : History} {map : Bindings} {event : Event}
    (member : event ∈ (run operate history map).1) : event.Ascending := by
  obtain ⟨now, operation, s, -, rfl⟩ := mem_run member
  cases operation with
  | entries start => exact ascending_entries now start s
  | _ => trivial

end Ideal

theorem run_uncounted {history : History} (ordered : history.Ordered) :
    (run Embedded.operate history ∅).1.map Event.uncounted = (run Ideal.operate history ∅).1 := by
  rw [← Ideal.uncounted_run]
  exact run_eq_of_related Event.uncounted (fun _ _ => True) Related
    (fun forward _ related => operate_related related forward _) ordered (fun _ _ => trivial)
    (fun _ _ => Nat.zero_le _) (.empty 0)

theorem uncounted_events {events : List Event}
    (none : ∀ event ∈ events, event.operation.isPurge = false) :
    events.map Event.uncounted = events :=
  (List.map_congr_left fun event member => uncounted_of_not_purge (none event member)).trans
    (List.map_id _)

theorem run_eq_ideal {history : History} (ordered : history.Ordered)
    (unpurged : ∀ step ∈ history, step.2.isPurge = false) :
    (run Embedded.operate history ∅).1 = (run Ideal.operate history ∅).1 := by
  rw [← run_uncounted ordered]
  refine (uncounted_events fun event member => ?_).symm
  obtain ⟨now, operation, s, asked, rfl⟩ := mem_run member
  exact unpurged _ asked

theorem run_without_purges {history : History} (ordered : history.Ordered) :
    (run Embedded.operate (history.filter fun step => !step.2.isPurge) ∅).1 =
      (run Embedded.operate history ∅).1.filter fun event => !event.operation.isPurge := by
  have sifted : ∀ event ∈ (run Embedded.operate history ∅).1.filter fun event =>
      !event.operation.isPurge, event.operation.isPurge = false := by
    intro event member
    simpa using (List.mem_filter.1 member).2
  calc (run Embedded.operate (history.filter fun step => !step.2.isPurge) ∅).1
      = (run Ideal.operate (history.filter fun step => !step.2.isPurge) ∅).1 :=
        run_eq_ideal (ordered.filter _) fun step member => by simpa using (List.mem_filter.1 member).2
    _ = ((run Embedded.operate history ∅).1.map Event.uncounted).filter fun event =>
          !event.operation.isPurge := by
        rw [Ideal.run_without_purges, run_uncounted ordered]
    _ = (run Embedded.operate history ∅).1.filter fun event => !event.operation.isPurge := by
        rw [List.filter_map]
        simp only [Function.comp_def, isPurge_uncounted]
        exact uncounted_events sifted

/-- The answers of the two stores are the same but for the counts of purges, listings are in the order
of the bytes of their keys, and without its purges a history has the other answers all the same. -/
theorem embedded_refines_ideal (history : History) (ordered : history.Ordered) :
    (run Embedded.operate history ∅).1.map Event.uncounted = (run Ideal.operate history ∅).1 ∧
      (∀ event ∈ (run Embedded.operate history ∅).1, event.Ascending) ∧
      (run Embedded.operate (history.filter fun step => !step.2.isPurge) ∅).1 =
        (run Embedded.operate history ∅).1.filter fun event => !event.operation.isPurge := by
  refine ⟨run_uncounted ordered, fun event member => ?_, run_without_purges ordered⟩
  have held : event.uncounted ∈ (run Ideal.operate history ∅).1 := by
    rw [← run_uncounted ordered]
    exact List.mem_map_of_mem member
  exact ascending_uncounted (Ideal.ascending_run held)

theorem embedded_refines_ideal_at_deadlines :
    let history : History := [(5, .call (.set "a" "x" (.ofMillis 3))), (8, .call (.claim "a" "y" .zero)),
      (8, .purge), (9, .entries none)]
    history.Ordered ∧
      (run Embedded.operate history ∅).1.map Event.uncounted = (run Ideal.operate history ∅).1 :=
  have ordered : History.Ordered [(5, .call (.set "a" "x" (.ofMillis 3))),
      (8, .call (.claim "a" "y" .zero)), (8, .purge), (9, .entries none)] := by decide
  ⟨ordered, (embedded_refines_ideal _ ordered).1⟩

end StickyRouting.Store
