import PresetPipeline.Proofs.Settings.Placement
import PresetPipeline.Settings.Resolve

/-!
# Layouts that fit

The check of an initial layout compares its size, and then its highest physical qubit, with the count of
physical qubits.

* `Layout.Exceeds` — a physical qubit of the layout is none of the device.
* `Layout.exceeds_of_lt_size` — with more virtual qubits than physical ones, some physical qubit is none
  of the device. So the size alone refuses nothing.
* `Layout.Complains` — what is reported of a layout that exceeds, and in which words.
* `Layout.Tables.checkFits` — the check on the two tables of a layout: the size is that of the one, the
  highest qubit is the last of the other.
* `Settings.checkLayout_eq_error_iff` — a layout is refused exactly if it exceeds.
* `Settings.checkLayout_isRangeCheck` — all of this, for any settings.
-/

set_option autoImplicit false

namespace PresetPipeline

namespace Layout

variable {l : Layout} {n v p : Qubit} {fault : LayoutFault}

/-- A physical qubit of the layout is not among the first `n`. -/
def Exceeds (l : Layout) (n : Qubit) : Prop := ∃ v p, l.physical? v = some p ∧ n ≤ p

theorem exceeds_iff : l.Exceeds n ↔ ∃ e ∈ l.pairs, n ≤ e.2 := by
  constructor
  · rintro ⟨v, p, hp, hle⟩
    exact ⟨(v, p), physical?_eq_some_iff.1 hp, hle⟩
  · rintro ⟨⟨v, p⟩, hmem, hle⟩
    exact ⟨v, p, physical?_eq_some_iff.2 hmem, hle⟩

/-- Distinct physical qubits below a count are not more than the count. -/
theorem exceeds_of_lt_size (h : n.toNat < l.size) : l.Exceeds n := by
  rw [exceeds_iff]
  by_contra hwithin
  simp only [not_exists, not_and, UInt32.not_le, UInt32.lt_iff_toNat_lt] at hwithin
  have hnodup : (l.pairs.map fun e => e.2.toNat).Nodup := by
    have hmap := l.isOneToOne.physicals.map fun _ _ => UInt32.toNat_inj.1
    rwa [List.map_map] at hmap
  have hsubset : (l.pairs.map fun e => e.2.toNat) ⊆ List.range n.toNat := by
    intro k hk
    obtain ⟨e, he, rfl⟩ := List.mem_map.1 hk
    exact List.mem_range.2 (hwithin e he)
  -- a list without repetition is no longer than one that has all its members
  have hle := (List.subperm_of_subset hnodup hsubset).length_le
  rw [List.length_map, List.length_range] at hle
  exact Nat.not_lt.2 hle h

/-- What is reported of a layout that does not fit on `n` qubits: how many virtual qubits there are, if
they are more than that, and else the highest physical qubit. Each has its message. -/
inductive Complains (l : Layout) (n : Qubit) : LayoutFault → String → Prop where
  | tooMany : n.toNat < l.size →
      Complains l n (.tooMany l.size n)
        (toString l.size ++ " virtual qubits cannot be placed on " ++ toString n ++ " physical qubits")
  | outside {top : Qubit} : l.size ≤ n.toNat → IsGreatest {p | ∃ v, l.physical? v = some p} top →
      Complains l n (.outside top n)
        ("physical qubit " ++ toString top ++ " does not exist on a " ++ toString n ++ "-qubit device")

theorem maxPhysical?_eq_some_iff_isGreatest :
    l.maxPhysical? = some p ↔ IsGreatest {p | ∃ v, l.physical? v = some p} p := by
  rw [maxPhysical?_eq_some_iff]
  simp only [IsGreatest, upperBounds, Set.mem_ofPred_eq, physical?_eq_some_iff]
  refine and_congr_right fun _ => ⟨?_, ?_⟩
  · rintro hle q ⟨v, hmem⟩
    exact hle _ hmem
  · rintro hle ⟨v, q⟩ hmem
    exact hle ⟨v, hmem⟩

/-- The highest physical qubit is looked at, and it is the one that is reported. -/
theorem checkFits_eq_error_iff :
    l.checkFits n = .error fault ↔
      ∃ top, l.maxPhysical? = some top ∧ n ≤ top ∧ fault = .outside top n := by
  unfold checkFits
  cases l.maxPhysical? with
  | none => simp
  | some top =>
    by_cases hle : n ≤ top
    · simp [hle, eq_comm]
    · simp [hle]

/-- There is always something to report. -/
theorem exists_complains (h : l.Exceeds n) : ∃ fault, l.Complains n fault fault.message := by
  obtain ⟨v, p, hp, -⟩ := h
  rcases Nat.lt_or_ge n.toNat l.size with hlt | hle
  · exact ⟨_, .tooMany hlt⟩
  · cases htop : l.maxPhysical? with
    | none =>
      rw [physical?_eq_some_iff, maxPhysical?_eq_none htop] at hp
      cases hp
    | some top => exact ⟨_, .outside hle (maxPhysical?_eq_some_iff_isGreatest.1 htop)⟩

/-! ## The check on two tables -/

/-- Compares the size of the one table, and then the last key of the other, with a count of qubits. -/
def Tables.checkFits (t : Tables) (n : Qubit) : Except LayoutFault Unit :=
  if n.toNat < t.physical.size then .error (.tooMany t.physical.size n)
  else
    match t.virtual.keys.getLast? with
    | some p => if n ≤ p then .error (.outside p n) else .ok ()
    | none => .ok ()

end Layout

namespace Settings

open Layout

variable {s : Settings} {l : Layout} {n : Qubit} {fault : LayoutFault}

theorem checkLayout_eq (hl : s.initialLayout = some l) (hn : s.numPhysical? = some n) :
    s.checkLayout = if n.toNat < l.size then .error (.tooMany l.size n) else l.checkFits n := by
  simp only [checkLayout, hl, hn]

theorem checkLayout_of_unknown (h : s.initialLayout = none ∨ s.numPhysical? = none) :
    s.checkLayout = .ok () := by
  unfold checkLayout
  split
  · rename_i l n hl hn
    simp [hl, hn] at h
  · rfl

/-- The two tables of a layout are all that the check looks at. -/
theorem checkLayout_eq_tables {t : Tables} (hl : s.initialLayout = some l)
    (hn : s.numPhysical? = some n) (h : l.AnswersFrom t) : s.checkLayout = t.checkFits n := by
  rw [checkLayout_eq hl hn, Tables.checkFits, ← h.size, ← h.highest]
  rfl

/-- A layout that exceeds is refused with what there is to report. Which of the two comparisons fails
decides only that. -/
theorem checkLayout_of_complains {text : String} (hl : s.initialLayout = some l)
    (hn : s.numPhysical? = some n) (hexceeds : l.Exceeds n) (h : l.Complains n fault text) :
    s.checkLayout = .error fault := by
  rw [checkLayout_eq hl hn]
  cases h with
  | tooMany hlt => rw [if_pos hlt]
  | @outside top hle htop =>
    obtain ⟨v, p, hp, hp_le⟩ := hexceeds
    rw [if_neg (Nat.not_lt.2 hle), checkFits_eq_error_iff]
    exact ⟨top, maxPhysical?_eq_some_iff_isGreatest.2 htop,
      UInt32.le_trans hp_le (htop.2 ⟨v, hp⟩), rfl⟩

theorem complains_of_checkLayout (hl : s.initialLayout = some l) (hn : s.numPhysical? = some n)
    (h : s.checkLayout = .error fault) : l.Exceeds n ∧ l.Complains n fault fault.message := by
  rw [checkLayout_eq hl hn] at h
  split at h
  · rename_i hlt
    cases h
    exact ⟨exceeds_of_lt_size hlt, .tooMany hlt⟩
  · rename_i hle
    obtain ⟨top, htop, htop_le, rfl⟩ := checkFits_eq_error_iff.1 h
    obtain ⟨⟨v, hmem⟩, -⟩ := maxPhysical?_eq_some_iff.1 htop
    exact ⟨⟨v, top, physical?_eq_some_iff.2 hmem, htop_le⟩,
      .outside (Nat.not_lt.1 hle) (maxPhysical?_eq_some_iff_isGreatest.1 htop)⟩

/-- **A layout is refused exactly if one of its physical qubits is none of the device.** The comparison of
its size refuses no layout that fits; it decides what is reported. The check looks at one size and one
key of the two tables, whichever operations led to the layout. Without a layout, or without a count,
nothing is refused. -/
theorem checkLayout_isRangeCheck (s : Settings) (hreached : ∀ l ∈ s.initialLayout, l.Reached) :
    (s.initialLayout = none ∨ (s.couplingMap = none ∧ s.target = none) → s.checkLayout = .ok ()) ∧
      ∀ l ∈ s.initialLayout,
        ∀ n ∈ (s.couplingMap.map (·.numQubits)).or (s.target.map (·.numQubits)),
          ((∃ fault, s.checkLayout = .error fault) ↔ l.Exceeds n) ∧
            (n.toNat < l.size → l.Exceeds n) ∧
            (∀ fault, s.checkLayout = .error fault ↔
              l.Exceeds n ∧ l.Complains n fault fault.message) ∧
            (∀ fault, (CompileError.invalidLayout fault).message =
              "Invalid initial layout: " ++ fault.message) ∧
            ∃ steps : List (Qubit × Qubit),
              s.checkLayout = (steps.foldl (fun t e => t.place e.1 e.2) Tables.empty).checkFits n := by
  constructor
  · rintro (hl | ⟨hm, ht⟩)
    · exact checkLayout_of_unknown (.inl hl)
    · exact checkLayout_of_unknown (.inr (by rw [numPhysical?, hm, ht]; rfl))
  · intro l hl n hn
    have herror : ∀ fault, s.checkLayout = .error fault ↔
        l.Exceeds n ∧ l.Complains n fault fault.message := fun _ =>
      ⟨complains_of_checkLayout hl hn, fun h => checkLayout_of_complains hl hn h.1 h.2⟩
    refine ⟨?_, exceeds_of_lt_size, herror, fun _ => rfl, ?_⟩
    · simp only [herror, exists_and_left]
      exact and_iff_left_of_imp exists_complains
    · obtain ⟨steps, rfl⟩ := (hreached l hl).exists_steps
      refine ⟨steps, checkLayout_eq_tables hl hn ?_⟩
      rw [← tables_ofList]
      exact answersFrom_tables _

/-- Four virtual qubits on a line of three, the last of them far outside. -/
def crowdedLine : Settings :=
  .resolve none none
    { couplingMap := some (.linear 3),
      initialLayout := some (.ofList [(0, 0), (1, 1), (2, 2), (3, 1000)]) }

/-- The line is too short for the layout, and its size is reported although a qubit is outside as well. -/
theorem checkLayout_isRangeCheck_crowdedLine :
    (∀ l ∈ crowdedLine.initialLayout, l.Reached ∧ l.Exceeds 3) ∧
      crowdedLine.checkLayout = .error (.tooMany 4 3) ∧
      (CompileError.invalidLayout (.tooMany 4 3)).message =
        "Invalid initial layout: 4 virtual qubits cannot be placed on 3 physical qubits" := by
  have hreached : ∀ l ∈ crowdedLine.initialLayout, l.Reached := by
    intro l hl
    cases hl
    exact .ofList _
  obtain ⟨-, hchecked⟩ := checkLayout_isRangeCheck crowdedLine hreached
  obtain ⟨-, hcrowded, herror, hmessage, -⟩ := hchecked _ rfl 3 rfl
  have hexceeds := hcrowded (by decide)
  refine ⟨fun l hl => ⟨hreached l hl, ?_⟩, (herror _).2 ⟨hexceeds, .tooMany (by decide)⟩,
    (hmessage _).trans (by decide +kernel)⟩
  cases hl
  exact hexceeds

end Settings

end PresetPipeline
