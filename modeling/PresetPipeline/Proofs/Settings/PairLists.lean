import PresetPipeline.Proofs.Settings.Placement
import PresetPipeline.Proofs.Settings.Wording

/-!
# Layouts of pair lists

A list of pairs of virtual and physical qubits becomes a layout in two ways. The strict one refuses a
qubit that is used again; the lenient one lets later pairs drop earlier ones.

* `Layout.Holds` — the pairs that a layout lists and answers, in both directions.
* `Layout.Survives` — an occurrence of the pair has no later pair in its way.
  `mem_pairs_foldl_add` — any run of placements keeps the pairs that survive it.
* `Layout.Clashes` — how a pair is refused after the pairs before it. `addAll_eq_error_iff` — a list is
  refused for its first pair that clashes.
* `ofPairs_pairs` — the pairs of a layout are accepted, and give the layout back.
* `pairLists_exact` — which lists are accepted, what is reported of the others, and what a layout holds.
-/

set_option autoImplicit false

namespace PresetPipeline.Layout

variable {l l' : Layout} {e e' : Qubit × Qubit} {pairs rest : List (Qubit × Qubit)} {fault : LayoutFault}

/-- The layout lists these pairs and no others, and both look-ups answer by them. -/
structure Holds (l : Layout) (kept : Qubit × Qubit → Prop) : Prop where
  listed : ∀ v p, (v, p) ∈ l.pairs ↔ kept (v, p)
  physical : ∀ v p, l.physical? v = some p ↔ kept (v, p)
  virtual : ∀ v p, l.virtual? p = some v ↔ kept (v, p)

theorem holds_of_mem_iff {kept : Qubit × Qubit → Prop} (h : ∀ e, e ∈ l.pairs ↔ kept e) :
    l.Holds kept where
  listed v p := h (v, p)
  physical v p := physical?_eq_some_iff.trans (h (v, p))
  virtual v p := virtual?_eq_some_iff.trans (h (v, p))

/-- No two pairs have a qubit in common if no qubit of either kind occurs twice. -/
theorem pairwise_apart_iff :
    pairs.Pairwise Apart ↔ (pairs.map (·.1)).Nodup ∧ (pairs.map (·.2)).Nodup := by
  unfold List.Nodup
  rw [List.pairwise_map, List.pairwise_map, ← List.pairwise_and_iff]
  rfl

/-! ## Later pairs drop earlier ones -/

instance : DecidableRel Apart := fun _ _ => inferInstanceAs (Decidable (_ ∧ _))

/-- Some occurrence of the pair is followed by no pair that uses one of its qubits. -/
def Survives (pairs : List (Qubit × Qubit)) (e : Qubit × Qubit) : Prop :=
  ∃ before after, pairs = before ++ e :: after ∧ ∀ e' ∈ after, Apart e e'

theorem not_survives_nil : ¬Survives [] e := by
  rintro ⟨before, after, heq, -⟩
  exact List.append_ne_nil_of_right_ne_nil _ (List.cons_ne_nil _ _) heq.symm

theorem survives_cons :
    Survives (e' :: rest) e ↔ Survives rest e ∨ (e = e' ∧ ∀ e'' ∈ rest, Apart e e'') := by
  constructor
  · rintro ⟨before, after, heq, hafter⟩
    cases before with
    | nil =>
      cases heq
      exact .inr ⟨rfl, hafter⟩
    | cons a before =>
      cases heq
      exact .inl ⟨before, after, rfl, hafter⟩
  · rintro (⟨before, after, rfl, hafter⟩ | ⟨rfl, hrest⟩)
    · exact ⟨e' :: before, after, rfl, hafter⟩
    · exact ⟨[], rest, rfl, hrest⟩

theorem mem_pairs_add_iff :
    e ∈ (l.add e'.1 e'.2).pairs ↔ e = e' ∨ (e ∈ l.pairs ∧ Apart e e') := by
  obtain ⟨w, q⟩ := e
  obtain ⟨v, p⟩ := e'
  rw [mem_pairs_add, Prod.mk.injEq]
  rfl

/-- A run of placements keeps what survives it. An earlier pair is kept if it is in nobody's way; it may
also be dropped and placed again. -/
theorem mem_pairs_foldl_add (pairs : List (Qubit × Qubit)) (l : Layout) :
    e ∈ (pairs.foldl (fun l e => l.add e.1 e.2) l).pairs ↔
      Survives pairs e ∨ (e ∈ l.pairs ∧ ∀ e' ∈ pairs, Apart e e') := by
  -- the layout varies: each placement may drop up to two of its pairs
  induction pairs generalizing l with
  | nil => simp [not_survives_nil]
  | cons e' rest ih =>
    rw [List.foldl_cons, ih, mem_pairs_add_iff, survives_cons, List.forall_mem_cons, or_and_right,
      or_assoc, and_assoc]

theorem mem_pairs_ofList : e ∈ (ofList pairs).pairs ↔ Survives pairs e := by
  have hempty : empty.pairs = [] := rfl
  rw [ofList, mem_pairs_foldl_add, hempty]
  simp

/-- Where no qubit is used again, every pair survives. -/
theorem survives_iff_mem (h : pairs.Pairwise Apart) : Survives pairs e ↔ e ∈ pairs := by
  constructor
  · rintro ⟨before, after, rfl, -⟩
    exact List.mem_append_right _ List.mem_cons_self
  · intro he
    obtain ⟨before, after, rfl⟩ := List.append_of_mem he
    obtain ⟨-, htail, -⟩ := List.pairwise_append.1 h
    exact ⟨before, after, rfl, (List.pairwise_cons.1 htail).1⟩

/-- A list in which no qubit is used again is accepted, and makes the lenient layout. -/
theorem ofPairs_of_apart (h : pairs.Pairwise Apart) : ofPairs pairs = .ok (ofList pairs) :=
  ofPairs_eq_ok_iff.2 ⟨h, fun _ => mem_pairs_ofList.trans (survives_iff_mem h)⟩

/-! ## A clash refuses the list -/

/-- How a pair is refused after some others: a physical qubit in use is reported with its virtual qubit,
and before a virtual qubit in use. -/
inductive Clashes (placed : Qubit × Qubit → Prop) : Qubit × Qubit → LayoutFault → Prop where
  | physical {w v p : Qubit} : placed (w, p) → Clashes placed (v, p) (.physicalTaken p w v)
  | virtual {v p q : Qubit} : (∀ w, ¬placed (w, p)) → placed (v, q) →
      Clashes placed (v, p) (.virtualTwice v)

theorem virtual?_eq_none_iff {p : Qubit} : l.virtual? p = none ↔ ∀ w, (w, p) ∉ l.pairs := by
  simp only [Option.eq_none_iff_forall_ne_some, ne_eq, virtual?_eq_some_iff]

theorem addAll_append (before after : List (Qubit × Qubit)) (l : Layout) :
    addAll l (before ++ after) = (addAll l before).bind fun l' => addAll l' after := by
  fun_induction addAll l before with
  | case1 l => rfl
  | case2 l v p rest w hw => simp [addAll, hw, Except.bind]
  | case3 l v p rest hp q hq => simp [addAll, hp, hq, Except.bind]
  | case4 l v p rest hp hv ih => simpa [addAll, hp, hv] using ih

theorem addAll_of_clashes (h : Clashes (· ∈ l.pairs) e fault) : addAll l (e :: rest) = .error fault := by
  cases h with
  | physical hplaced =>
    rw [addAll, virtual?_eq_some_iff.2 hplaced]
  | virtual hfree hplaced =>
    rw [addAll, virtual?_eq_none_iff.2 hfree, physical?_eq_some_iff.2 hplaced]

/-- A list is refused for its first pair that clashes: the pairs before it are accepted. -/
theorem addAll_eq_error_iff :
    addAll l pairs = .error fault ↔
      ∃ before e after l', pairs = before ++ e :: after ∧ addAll l before = .ok l' ∧
        Clashes (· ∈ l'.pairs) e fault := by
  constructor
  · intro h
    fun_induction addAll l pairs with
    | case1 l => cases h
    | case2 l v p rest w hw =>
      cases h
      exact ⟨[], (v, p), rest, l, rfl, rfl, .physical (virtual?_eq_some_iff.1 hw)⟩
    | case3 l v p rest hp q hq =>
      cases h
      exact ⟨[], (v, p), rest, l, rfl, rfl,
        .virtual (virtual?_eq_none_iff.1 hp) (physical?_eq_some_iff.1 hq)⟩
    | case4 l v p rest hp hv ih =>
      obtain ⟨before, e, after, l', rfl, hbefore, hclash⟩ := ih h
      refine ⟨(v, p) :: before, e, after, l', rfl, ?_, hclash⟩
      rw [addAll, hp, hv]
      exact hbefore
  · rintro ⟨before, e, after, l', rfl, hbefore, hclash⟩
    rw [addAll_append, hbefore]
    exact addAll_of_clashes hclash

/-- The first pair that uses a qubit of an earlier one is reported. -/
theorem ofPairs_eq_error_iff :
    ofPairs pairs = .error fault ↔
      ∃ before e after, pairs = before ++ e :: after ∧ before.Pairwise Apart ∧
        Clashes (· ∈ before) e fault := by
  rw [ofPairs, addAll_eq_error_iff]
  constructor
  · rintro ⟨before, e, after, l', heq, hbefore, hclash⟩
    obtain ⟨hapart, hpairs⟩ := ofPairs_eq_ok_iff.1 hbefore
    simp only [hpairs] at hclash
    exact ⟨before, e, after, heq, hapart, hclash⟩
  · rintro ⟨before, e, after, heq, hapart, hclash⟩
    refine ⟨before, e, after, ofList before, heq, ofPairs_of_apart hapart, ?_⟩
    simp only [mem_pairs_ofList, survives_iff_mem hapart]
    exact hclash

/-! ## The pairs of a layout -/

/-- The pairs of a layout are in the order of their virtual qubits, each of which occurs once. -/
theorem pairs_increasing (l : Layout) : l.pairs.Pairwise fun a b => a.1 < b.1 :=
  l.placement.sorted.imp Std.compare_eq_lt.1

/-- The pairs of a layout have no qubit in common. -/
theorem pairs_apart (l : Layout) : l.pairs.Pairwise Apart :=
  pairwise_apart_iff.2 ⟨l.isOneToOne.virtuals, l.isOneToOne.physicals⟩

/-- The pairs of a layout are accepted, and make the same layout again. -/
theorem ofPairs_pairs (l : Layout) : ofPairs l.pairs = .ok l :=
  ofPairs_eq_ok_iff.2 ⟨l.pairs_apart, fun _ => Iff.rfl⟩

theorem ofList_pairs (l : Layout) : ofList l.pairs = l := by
  have h := l.ofPairs_pairs
  rw [ofPairs_of_apart l.pairs_apart] at h
  exact Except.ok.inj h

/-- **Two ways from a list of pairs to a layout, and one way back.** The strict way accepts a list exactly
if no qubit occurs twice, and reports the first pair that repeats one; the lenient way keeps the pairs
that survive. They agree where both have an answer, and on the pairs of any layout. -/
theorem pairLists_exact (pairs : List (Qubit × Qubit)) :
    ((∃ l, ofPairs pairs = .ok l) ↔ (pairs.map (·.1)).Nodup ∧ (pairs.map (·.2)).Nodup) ∧
      (∀ l, ofPairs pairs = .ok l → l.pairs.Perm pairs ∧ l.Holds (· ∈ pairs) ∧ ofList pairs = l) ∧
      (∀ fault, ofPairs pairs = .error fault ↔
        ∃ before e after, pairs = before ++ e :: after ∧
          ((before.map (·.1)).Nodup ∧ (before.map (·.2)).Nodup) ∧ Clashes (· ∈ before) e fault) ∧
      (∀ fault, ofPairs pairs = .error fault → ∃ text, fault.Says text ∧
        (CompileError.invalidLayout fault).message = "Invalid initial layout: " ++ text) ∧
      (ofList pairs).Holds (Survives pairs) ∧
      ∀ l : Layout, (l.pairs.Pairwise fun a b => a.1 < b.1) ∧ l.Holds (· ∈ l.pairs) ∧
        ofPairs l.pairs = .ok l ∧ ofList l.pairs = l := by
  refine ⟨?_, ?_, ?_, fun fault _ => ⟨_, fault.says_message, rfl⟩,
    holds_of_mem_iff fun _ => mem_pairs_ofList, ?_⟩
  · rw [← pairwise_apart_iff]
    constructor
    · rintro ⟨l, hl⟩
      exact (ofPairs_eq_ok_iff.1 hl).1
    · intro hapart
      exact ⟨ofList pairs, ofPairs_of_apart hapart⟩
  · intro l hl
    obtain ⟨hapart, hpairs⟩ := ofPairs_eq_ok_iff.1 hl
    rw [ofPairs_of_apart hapart] at hl
    refine ⟨?_, holds_of_mem_iff hpairs, Except.ok.inj hl⟩
    have hnodup : ∀ {pairs : List (Qubit × Qubit)}, pairs.Pairwise Apart → pairs.Nodup :=
      fun h => (pairwise_apart_iff.1 h).1.of_map
    exact (List.perm_ext_iff_of_nodup (hnodup l.pairs_apart) (hnodup hapart)).2 hpairs
  · intro fault
    simp only [ofPairs_eq_error_iff, pairwise_apart_iff]
  · intro l
    exact ⟨l.pairs_increasing, holds_of_mem_iff fun _ => Iff.rfl, l.ofPairs_pairs, l.ofList_pairs⟩

/-- A pair that is dropped by the second one and comes back with the third. -/
def returningPairs : List (Qubit × Qubit) := [(0, 1), (0, 2), (0, 1), (3, 4)]

/-- The strict way accepts the last two pairs of the list. Of the whole list it reports the virtual qubit
of the second pair, and the lenient way keeps the third. -/
theorem pairLists_exact_returning :
    (∃ l, ofPairs [(0, 1), (3, 4)] = .ok l ∧ l.virtual? 1 = some 0) ∧
      ofPairs returningPairs = .error (.virtualTwice 0) ∧
      (CompileError.invalidLayout (.virtualTwice 0)).message =
        "Invalid initial layout: virtual qubit 0 assigned twice" ∧
      (ofList returningPairs).physical? 0 = some 1 ∧ (ofList returningPairs).virtual? 1 = some 0 := by
  obtain ⟨haccepted, hmade, -, -, -, -⟩ := pairLists_exact [(0, 1), (3, 4)]
  obtain ⟨-, -, hrefused, hwords, hkept, -⟩ := pairLists_exact returningPairs
  have hsurvives : Survives returningPairs (0, 1) :=
    ⟨[(0, 1), (0, 2)], [(3, 4)], rfl, List.forall_mem_singleton.2 (by decide)⟩
  have herror : ofPairs returningPairs = .error (.virtualTwice 0) :=
    (hrefused _).2 ⟨[(0, 1)], (0, 2), [(0, 1), (3, 4)], rfl, by decide,
      .virtual (by simp) List.mem_cons_self⟩
  refine ⟨?_, herror, ?_, (hkept.physical 0 1).2 hsurvives, (hkept.virtual 0 1).2 hsurvives⟩
  · obtain ⟨l, hl⟩ := haccepted.2 (by decide)
    obtain ⟨-, hholds, -⟩ := hmade l hl
    exact ⟨l, hl, (hholds.virtual 0 1).2 List.mem_cons_self⟩
  · obtain ⟨text, hsays, hmessage⟩ := hwords _ herror
    cases hsays
    exact hmessage.trans (by decide +kernel)

end PresetPipeline.Layout
