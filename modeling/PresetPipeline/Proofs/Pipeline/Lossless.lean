import Mathlib.Data.List.Forall2
import PresetPipeline.Pipeline.Writing

/-!
# Pipelines are written without loss

A written pipeline leaves out what is absent: guards, repetitions and empty tables of arguments. It
still determines the pipeline, whatever JSON values the arguments are.

* `Json.IsComparison` — a relation of values that tells texts, whole numbers, items and members apart.
  `isComparison_eq`, `isComparison_same`, `isComparison_sameValue` — equality, the equality of programs,
  and equality up to the order of members.
* `Pass.member?_toJson`, `Stage.member?_toJson`, `Pipeline.member?_toJson` — the members that are
  written. `Pass.arg?_eq_bind` — an argument is found in what is written of the table, left out or not.
* `Pass.AgreesBy`, `Stage.AgreesBy`, `Pipeline.AgreesBy` — the same pipelines but for arguments, which a
  comparison takes for equal.
* `Pass.agreesBy_of_toJson`, `Stage.agreesBy_of_toJson`, `Pipeline.agreesBy_of_toJson` — what a comparison
  takes for equal is written of passes, stages and pipelines that agree by it.
* `Pipeline.toJson_lossless` — the statement for the three comparisons, with what is left out.
-/

set_option autoImplicit false

namespace PresetPipeline

/-! ## Related options, lists and maps -/

section Related

variable {α κ : Type} [Ord κ] {r : α → α → Prop} {o o' : Option α} {l l' : List α}

theorem rel_refl (h : ∀ a, r a a) (o : Option α) : Option.Rel r o o := by
  cases o with
  | none => exact .none
  | some a => exact .some (h a)

theorem rel_bind {f : α → Option α} (h : Option.Rel r o o') (hf : ∀ a a', r a a' → Option.Rel r (f a) (f a')) :
    Option.Rel r (o.bind f) (o'.bind f) := by
  cases h with
  | some h => exact hf _ _ h
  | none => exact .none

theorem isSome_eq_of_rel (h : Option.Rel r o o') : o.isSome = o'.isSome := by
  cases h <;> rfl

theorem eq_of_rel (h : Option.Rel (· = ·) o o') : o = o' := by
  cases h with
  | some h => exact congrArg some h
  | none => rfl

theorem eq_of_forall₂ (h : List.Forall₂ r l l') (heq : ∀ a a', r a a' → a = a') : l = l' :=
  List.forall₂_eq_eq_eq ▸ h.imp heq

theorem beq_of_forall₂ [BEq α] (h : List.Forall₂ (fun a a' => (a == a') = true) l l') :
    (l == l') = true := by
  induction h with
  | nil => rfl
  | cons ha _ ih => rw [List.cons_beq_cons, ha, ih, Bool.and_self]

/-- Maps with related values under every key have related entries. -/
theorem SortedMap.forall₂_entries [Std.TransOrd κ] [Std.LawfulEqOrd κ] {m n : SortedMap κ α}
    (h : ∀ k, Option.Rel r (m.find? k) (n.find? k)) :
    List.Forall₂ (fun a b => a.1 = b.1 ∧ r a.2 b.2) m.entries n.entries := by
  have hsorted : ∀ m : SortedMap κ α, m.keys.Pairwise fun k k' => compare k k' = .lt :=
    fun m => List.pairwise_map.2 m.sorted
  have hkeys : m.keys = n.keys := by
    refine eq_of_pairwise_of_mem (fun _ _ => Std.OrientedCmp.not_lt_of_lt) (hsorted m) (hsorted n) ?_
    intro k
    rw [mem_keys_iff, mem_keys_iff, isSome_eq_of_rel (h k)]
  have hfirst : List.Forall₂ (fun a b => a.1 = b.1) m.entries n.entries := by
    have hforall : List.Forall₂ (· = ·) m.keys n.keys := List.forall₂_eq_eq_eq ▸ hkeys
    rwa [keys, keys, List.forall₂_map_left_iff, List.forall₂_map_right_iff] at hforall
  -- The keys agree place by place; what stands under them is looked up.
  obtain ⟨hlength, hpairs⟩ := List.forall₂_iff_zip.1 hfirst
  refine List.forall₂_iff_zip.2 ⟨hlength, fun {a b} hmem => ⟨hpairs hmem, ?_⟩⟩
  obtain ⟨ha, hb⟩ := List.of_mem_zip hmem
  have hrel := h a.1
  rw [find?_eq_some_iff.2 ha, hpairs hmem, find?_eq_some_iff.2 hb] at hrel
  cases hrel with
  | some hvalue => exact hvalue

theorem SortedMap.isEmpty_iff {m : SortedMap κ α} : m.isEmpty = true ↔ m = .empty := by
  constructor
  · intro h
    cases m with
    | mk entries sorted =>
      obtain rfl := List.isEmpty_iff.1 h
      rfl
  · rintro rfl
    rfl

end Related

/-! ## Names -/

theorem StageKind.name_injective : Function.Injective StageKind.name := by
  intro a b h
  cases a <;> cases b <;> simp_all [name]

theorem PassKind.name_injective : Function.Injective PassKind.name := by
  intro a b h
  cases a <;> cases b <;> simp_all [name]

theorem Condition.name_injective : Function.Injective Condition.name := by
  intro a b h
  cases a <;> cases b <;> simp_all [name]

theorem Repeat.name_injective : Function.Injective Repeat.name := by
  intro a b h
  cases a <;> cases b <;> simp_all [name]

theorem Level.toNat_injective : Function.Injective Level.toNat := by
  intro a b h
  have hsome := ofInt?_toNat a
  rw [h, ofInt?_toNat] at hsome
  exact (Option.some.inj hsome).symm

/-! ## Comparisons -/

namespace Json

variable {R : Json → Json → Prop}

/-- A relation of values that tells texts, whole numbers, items and members apart. -/
structure IsComparison (R : Json → Json → Prop) : Prop where
  text {s t : String} : R (.string s) (.string t) → s = t
  whole {m n : Int} : R (.ofInt m) (.ofInt n) → m = n
  items {l l' : List Json} : R (.array l) (.array l') → List.Forall₂ R l l'
  members {j j' : Json} (key : String) : R j j' → Option.Rel R (j.member? key) (j'.member? key)

/-- Values that are equal but for the order of members. Numbers are compared as programs do. -/
inductive SameValue : Json → Json → Prop where
  | refl (j : Json) : SameValue j j
  | number {m n : JsonNumber} : m.same n = true → SameValue (.number m) (.number n)
  | array {l l' : List Json} : List.Forall₂ SameValue l l' → SameValue (.array l) (.array l')
  | object {ms ns : List (String × Json)} :
      (∀ key, Option.Rel SameValue (ms.lookup key) (ns.lookup key)) → SameValue (.object ms) (.object ns)

theorem isComparison_eq : IsComparison (· = ·) where
  text h := string.inj h
  whole h := JsonNumber.integer.inj (number.inj h)
  items h := List.forall₂_eq_eq_eq ▸ array.inj h
  members _ h := h ▸ rel_refl (fun _ => rfl) _

theorem sameItems_iff {l l' : List Json} :
    sameItems l l' = true ↔ List.Forall₂ (fun j j' => j.same j' = true) l l' := by
  induction l generalizing l' with
  | nil => cases l' <;> simp [sameItems]
  | cons j l ih => cases l' <;> simp [sameItems, ih]

theorem sameMembers_iff {ms ns : List (String × Json)} :
    sameMembers ms ns = true ↔ List.Forall₂ (fun a b => a.1 = b.1 ∧ a.2.same b.2 = true) ms ns := by
  induction ms generalizing ns with
  | nil => cases ns <;> simp [sameMembers]
  | cons a ms ih => cases ns <;> simp [sameMembers, ih]

/-- Members that are related in order are related under every key. -/
theorem rel_lookup {ms ns : List (String × Json)} (h : List.Forall₂ (fun a b => a.1 = b.1 ∧ R a.2 b.2) ms ns)
    (key : String) : Option.Rel R (ms.lookup key) (ns.lookup key) := by
  induction h with
  | nil => exact .none
  | @cons a b ms ns hab _ ih =>
    obtain ⟨k, v⟩ := a
    obtain ⟨k', v'⟩ := b
    obtain ⟨rfl, hv⟩ : k = k' ∧ R v v' := hab
    rw [List.lookup_cons, List.lookup_cons]
    split
    · exact .some hv
    · exact ih

theorem isComparison_same : IsComparison (fun j j' => j.same j' = true) where
  text h := by simpa [same] using h
  whole h := by simpa [ofInt, same, JsonNumber.same] using h
  items h := by
    rw [same] at h
    exact sameItems_iff.1 h
  members {j j'} key h := by
    cases j with
    | object ms =>
      cases j' with
      | object ns =>
        rw [same] at h
        exact rel_lookup (sameMembers_iff.1 h) key
      | _ => simp [same] at h
    | _ =>
      cases j' with
      | object => simp [same] at h
      | _ => exact .none

theorem isComparison_sameValue : IsComparison SameValue where
  text h := by
    cases h
    rfl
  whole {m n} h := by
    change SameValue (.number (.integer m)) (.number (.integer n)) at h
    cases h with
    | refl => rfl
    | number h => simpa [JsonNumber.same] using h
  items h := by
    cases h with
    | refl => exact List.forall₂_same.2 fun j _ => .refl j
    | array h => exact h
  members key h := by
    cases h with
    | refl => exact rel_refl .refl _
    | number => exact .none
    | array => exact .none
    | object h => exact h key

theorem IsComparison.items_map (h : IsComparison R) {α : Type} {f : α → Json} {l l' : List α}
    (hR : R (.array (l.map f)) (.array (l'.map f))) : List.Forall₂ (fun a a' => R (f a) (f a')) l l' := by
  have hitems := h.items hR
  rwa [List.forall₂_map_left_iff, List.forall₂_map_right_iff] at hitems

/-- A name is left out where there is none, and is never taken for a missing one. -/
theorem IsComparison.name? (h : IsComparison R) {α : Type} {name : α → String}
    (hname : Function.Injective name) {o o' : Option α}
    (hrel : Option.Rel R (o.map fun a => .string (name a)) (o'.map fun a => .string (name a))) :
    o = o' := by
  cases o with
  | none =>
    cases o' with
    | none => rfl
    | some a' => cases hrel
  | some a =>
    cases o' with
    | none => cases hrel
    | some a' =>
      cases hrel with
      | some htext => rw [hname (h.text htext)]

end Json

/-! ## Passes -/

namespace Pass

variable {R : Json → Json → Prop} {p q : Pass}

/-- The members of a written pass. -/
theorem member?_toJson (p : Pass) (key : String) :
    p.toJson.member? key =
      if key = "name" then some (.string p.name)
      else if key = "kind" then some (.string p.kind.name)
      else if key = "condition" then p.condition.map fun c => .string c.name
      else if key = "args" then if p.args.isEmpty then none else some (.ofMap p.args)
      else none := by
  simp only [toJson, Json.member?_ofMembers_required, Json.member?_ofMembers_omitted,
    Json.member?_ofMembers_nil, Option.or_none]
  split_ifs <;> simp_all

/-- An argument is found in what is written of the table, and there is none if nothing is written. -/
theorem arg?_eq_bind (p : Pass) (key : String) :
    p.arg? key = (p.toJson.member? "args").bind (·.member? key) := by
  have hargs : p.toJson.member? "args" = if p.args.isEmpty then none else some (.ofMap p.args) := by
    simp [member?_toJson]
  rw [hargs]
  split
  · rename_i hempty
    rw [Option.bind_none, arg?, SortedMap.find?, List.isEmpty_iff.1 hempty]
    rfl
  · exact (Json.member?_ofMap p.args).symm

/-- Passes that are the same but for arguments, which a comparison takes for equal. -/
structure AgreesBy (R : Json → Json → Prop) (p q : Pass) : Prop where
  name : p.name = q.name
  kind : p.kind = q.kind
  condition : p.condition = q.condition
  args : ∀ key, Option.Rel R (p.arg? key) (q.arg? key)

theorem agreesBy_of_toJson (h : Json.IsComparison R) (hR : R p.toJson q.toJson) : p.AgreesBy R q where
  name := by
    have hname : R (.string p.name) (.string q.name) := by
      simpa [member?_toJson] using h.members "name" hR
    exact h.text hname
  kind := by
    have hkind : R (.string p.kind.name) (.string q.kind.name) := by
      simpa [member?_toJson] using h.members "kind" hR
    exact PassKind.name_injective (h.text hkind)
  condition := by
    apply h.name? Condition.name_injective
    simpa [member?_toJson] using h.members "condition" hR
  args key := by
    rw [arg?_eq_bind, arg?_eq_bind]
    exact rel_bind (h.members "args" hR) fun _ _ => h.members key

end Pass

/-! ## Stages -/

namespace Stage

variable {R : Json → Json → Prop} {s t : Stage}

/-- The members of a written stage. -/
theorem member?_toJson (s : Stage) (key : String) :
    s.toJson.member? key =
      if key = "kind" then some (.string s.kind.name)
      else if key = "passes" then some (.array (s.passes.map Pass.toJson))
      else if key = "repeat" then s.repeats.map fun r => .string r.name
      else none := by
  simp only [toJson, Json.member?_ofMembers_required, Json.member?_ofMembers_omitted,
    Json.member?_ofMembers_nil, Option.or_none]

/-- Stages of one kind and repetition with passes that agree. -/
structure AgreesBy (R : Json → Json → Prop) (s t : Stage) : Prop where
  kind : s.kind = t.kind
  passes : List.Forall₂ (Pass.AgreesBy R) s.passes t.passes
  repeats : s.repeats = t.repeats

theorem agreesBy_of_toJson (h : Json.IsComparison R) (hR : R s.toJson t.toJson) : s.AgreesBy R t where
  kind := by
    have hkind : R (.string s.kind.name) (.string t.kind.name) := by
      simpa [member?_toJson] using h.members "kind" hR
    exact StageKind.name_injective (h.text hkind)
  passes := by
    have hpasses : R (.array (s.passes.map Pass.toJson)) (.array (t.passes.map Pass.toJson)) := by
      simpa [member?_toJson] using h.members "passes" hR
    exact (h.items_map hpasses).imp fun _ _ => Pass.agreesBy_of_toJson h
  repeats := by
    apply h.name? Repeat.name_injective
    simpa [member?_toJson] using h.members "repeat" hR

end Stage

/-! ## Pipelines -/

namespace Pipeline

variable {R : Json → Json → Prop} {p q : Pipeline}

/-- The members of a written pipeline. -/
theorem member?_toJson (p : Pipeline) (key : String) :
    p.toJson.member? key =
      if key = "level" then some (.ofNat p.level.toNat)
      else if key = "stages" then some (.array (p.stages.map Stage.toJson))
      else none := by
  show (Json.ofMembers [Json.required "level" _, Json.required "stages" _]).member? key = _
  simp only [Json.member?_ofMembers_required, Json.member?_ofMembers_nil]

/-- Pipelines of one level with stages that agree. -/
structure AgreesBy (R : Json → Json → Prop) (p q : Pipeline) : Prop where
  level : p.level = q.level
  stages : List.Forall₂ (Stage.AgreesBy R) p.stages q.stages

/-- What a comparison takes for equal is written of pipelines that agree by it. -/
theorem agreesBy_of_toJson (h : Json.IsComparison R) (hR : R p.toJson q.toJson) : p.AgreesBy R q where
  level := by
    have hlevel : R (.ofNat p.level.toNat) (.ofNat q.level.toNat) := by
      simpa [member?_toJson] using h.members "level" hR
    exact Level.toNat_injective (Int.ofNat_inj.1 (h.whole hlevel))
  stages := by
    have hstages : R (.array (p.stages.map Stage.toJson)) (.array (q.stages.map Stage.toJson)) := by
      simpa [member?_toJson] using h.members "stages" hR
    exact (h.items_map hstages).imp fun _ _ => Stage.agreesBy_of_toJson h

end Pipeline

/-! ## Agreement by equality -/

theorem Pass.AgreesBy.eq {p q : Pass} (h : p.AgreesBy (· = ·) q) : p = q := by
  have hargs : p.args = q.args := by
    apply SortedMap.ext_find?
    intro key
    exact eq_of_rel (h.args key)
  cases p
  cases q
  simp only [mk.injEq]
  exact ⟨h.name, h.kind, h.condition, hargs⟩

theorem Stage.AgreesBy.eq {s t : Stage} (h : s.AgreesBy (· = ·) t) : s = t := by
  have hpasses := eq_of_forall₂ h.passes fun _ _ => Pass.AgreesBy.eq
  cases s
  cases t
  simp only [mk.injEq]
  exact ⟨h.kind, hpasses, h.repeats⟩

theorem Pipeline.AgreesBy.eq {p q : Pipeline} (h : p.AgreesBy (· = ·) q) : p = q := by
  have hstages := eq_of_forall₂ h.stages fun _ _ => Stage.AgreesBy.eq
  cases p
  cases q
  simp only [mk.injEq]
  exact ⟨h.level, hstages⟩

/-! ## Agreement by the equality of programs -/

theorem Pass.AgreesBy.beq {p q : Pass} (h : p.AgreesBy (fun j j' => j.same j' = true) q) :
    (p == q) = true := by
  have hargs : (p.args == q.args) = true :=
    beq_of_forall₂ ((SortedMap.forall₂_entries h.args).imp fun a b hab => by
      exact Bool.and_eq_true_iff.2 ⟨beq_iff_eq.2 hab.1, hab.2⟩)
  cases p
  cases q
  show (_ == _ && (_ == _ && (_ == _ && _ == _))) = true
  rw [beq_iff_eq.2 h.name, beq_iff_eq.2 h.kind, beq_iff_eq.2 h.condition]
  exact hargs

theorem Stage.AgreesBy.beq {s t : Stage} (h : s.AgreesBy (fun j j' => j.same j' = true) t) :
    (s == t) = true := by
  have hpasses := beq_of_forall₂ (h.passes.imp fun _ _ => Pass.AgreesBy.beq)
  cases s
  cases t
  show (_ == _ && (_ == _ && _ == _)) = true
  rw [beq_iff_eq.2 h.kind, beq_iff_eq.2 h.repeats, hpasses]
  rfl

theorem Pipeline.AgreesBy.beq {p q : Pipeline} (h : p.AgreesBy (fun j j' => j.same j' = true) q) :
    (p == q) = true := by
  have hstages := beq_of_forall₂ (h.stages.imp fun _ _ => Stage.AgreesBy.beq)
  cases p
  cases q
  show (_ == _ && _ == _) = true
  rw [beq_iff_eq.2 h.level, hstages]
  rfl

/-! ## What is left out -/

/-- Guards and arguments are left out where there are none, and only there. -/
theorem Pass.leavesOut_iff (p : Pass) :
    (p.toJson.member? "condition" = none ↔ p.condition = none) ∧
      (p.toJson.member? "args" = none ↔ p.args = .empty) := by
  constructor
  · simp [member?_toJson]
  · simp [member?_toJson, ← SortedMap.isEmpty_iff]

theorem Stage.leavesOut_iff (s : Stage) : s.toJson.member? "repeat" = none ↔ s.repeats = none := by
  simp [member?_toJson]

namespace Pipeline

/-- **A pipeline is written without loss.** Pipelines that are written as equal values are equal, be the
values compared exactly or as programs do; where the order of members does not count, they are equal but
for that order inside their arguments. Yet guards, repetitions and arguments are left out where there are
none, and only there. -/
theorem toJson_lossless (p q : Pipeline) :
    (p.toJson = q.toJson → p = q) ∧
      ((p.toJson == q.toJson) = true → (p == q) = true) ∧
      (p.toJson.SameValue q.toJson → p.AgreesBy Json.SameValue q) ∧
      (∀ s : Stage, s.toJson.member? "repeat" = none ↔ s.repeats = none) ∧
      ∀ a : Pass, (a.toJson.member? "condition" = none ↔ a.condition = none) ∧
        (a.toJson.member? "args" = none ↔ a.args = .empty) :=
  ⟨fun h => (agreesBy_of_toJson Json.isComparison_eq h).eq,
    fun h => (agreesBy_of_toJson Json.isComparison_same h).beq,
    agreesBy_of_toJson Json.isComparison_sameValue, Stage.leavesOut_iff, Pass.leavesOut_iff⟩

/-- A pass without guard whose arguments have the names of members. -/
def lookalike : Pipeline :=
  ⟨.level1, [.once .routing [((Pass.transformation "BasicSwap").withArg "condition"
    (.string "not_mapped")).withArg "args" (.object [])]]⟩

/-- The same pass, with the arguments set in the other order. -/
def lookalikeBackwards : Pipeline :=
  ⟨.level1, [.once .routing [((Pass.transformation "BasicSwap").withArg "args"
    (.object [])).withArg "condition" (.string "not_mapped")]]⟩

/-- The guarded pass, with the other argument only. -/
def guarded : Pipeline :=
  ⟨.level1, [.once .routing [((Pass.transformation "BasicSwap").withArg "args"
    (.object [])).guardedBy .notMapped]]⟩

/-- In either order the arguments are written alike, and they are not taken for the guard. -/
theorem toJson_lossless_lookalike :
    lookalike.toJson = lookalikeBackwards.toJson ∧ lookalike = lookalikeBackwards ∧
      (lookalike.toJson == lookalikeBackwards.toJson) = true ∧ (lookalike == lookalikeBackwards) = true ∧
      lookalike.AgreesBy Json.SameValue lookalikeBackwards ∧ lookalike.toJson ≠ guarded.toJson := by
  obtain ⟨heq, hbeq, hagrees, -⟩ := toJson_lossless lookalike lookalikeBackwards
  obtain ⟨hguarded, -⟩ := toJson_lossless lookalike guarded
  refine ⟨rfl, heq rfl, by decide, hbeq (by decide), hagrees (.refl _), fun h => ?_⟩
  have hcondition := congrArg (fun p : Pipeline => p.passes.map (·.condition)) (hguarded h)
  cases hcondition

end Pipeline

end PresetPipeline
