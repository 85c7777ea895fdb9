import DesignTokens.Catalog.Image
import DesignTokens.Proofs.Catalog.Appearances
import DesignTokens.Proofs.Text.Case

/-!
# Renaming in any order

A prefix goes in front of a name whose first letter is capitalized, a suffix behind it. The two
meet only in an empty name, where the suffix brings the first letter (`upperFirst_append_iff`). For
other names `addSuffix_addPrefix` says that the stages commute, for every type of items that forget
the name they had before (`LawfulNamed`).

What holds of two stages holds of any number: stages that commute pairwise on lists with an
invariant that each of them keeps give one result in every order (`run_perm`). The invariant here
is that no name is empty, and `renaming_commutes` applies it to the stages of a colour catalog.
-/

set_option autoImplicit false

namespace DesignTokens

/-! ### Names -/

/-- Renaming gives the same item under the new name, so nothing is left of an earlier name. -/
class LawfulNamed (α : Type) [Named α] : Prop where
  name_rename (item : α) (name : String) : Named.name (Named.rename item name) = name
  rename_rename (item : α) (earlier name : String) :
    Named.rename (Named.rename item earlier) name = Named.rename item name

instance : LawfulNamed TokenValue := ⟨fun _ _ => rfl, fun _ _ _ => rfl⟩

instance : LawfulNamed Color := ⟨fun _ _ => rfl, fun _ _ _ => rfl⟩

instance : LawfulNamed Image := ⟨fun _ _ => rfl, fun _ _ _ => rfl⟩

attribute [simp] LawfulNamed.name_rename LawfulNamed.rename_rename

/-- Renaming an item to two names gives the same only if the names are the same. -/
theorem rename_inj {α : Type} [Named α] [LawfulNamed α] {item : α} {first last : String} :
    Named.rename item first = Named.rename item last ↔ first = last := by
  constructor
  · intro h
    have hnames := congrArg Named.name h
    rwa [LawfulNamed.name_rename, LawfulNamed.name_rename] at hnames
  · exact fun h => h ▸ rfl

/-- The upper case form of a first letter is never empty. -/
theorem upperFirst_ne_empty {name : String} (h : name ≠ "") : upperFirst name ≠ "" := by
  intro hempty
  have htext : Text.upperFirst name.toList = [] := by
    simpa [upperFirst] using hempty
  cases hname : name.toList with
  | nil => exact h (String.toList_eq_nil_iff.1 hname)
  | cons c rest =>
    -- no image of a character is empty
    obtain ⟨first, behind, hc, -⟩ := Text.upperChar_eq_cons c
    rw [hname] at htext
    simp [Text.upperFirst, hc] at htext

/-- A suffix may be added before or after the first letter is capitalized, unless that letter is its
own, as it is behind an empty name. -/
theorem upperFirst_append_iff {name ending : String} :
    upperFirst (name ++ ending) = upperFirst name ++ ending ↔
      name ≠ "" ∨ upperFirst ending = ending := by
  rw [← String.toList_inj]
  cases hname : name.toList with
  | nil =>
    obtain rfl := String.toList_eq_nil_iff.1 hname
    simp [upperFirst, Text.upperFirst, ← String.toList_inj]
  | cons c rest =>
    have hne : name ≠ "" := by
      rintro rfl
      cases hname
    simp [upperFirst, Text.upperFirst, hname, hne]

namespace Stage

/-! ### Two stages -/

section
variable {α : Type} [Named α]

/-- No item has an empty name. -/
def AllNamed (items : List α) : Prop :=
  ∀ item ∈ items, Named.name item ≠ ""

variable [LawfulNamed α] {options : Option Value} {items : List α}

/-- A prefix leaves no item without a name. -/
theorem AllNamed.addPrefix (h : AllNamed items) : AllNamed (addPrefix options items) := by
  unfold Stage.addPrefix
  split
  · exact h
  · rename_i start hstart
    intro renamed hmem
    obtain ⟨item, hitem, rfl⟩ := List.mem_map.1 hmem
    simp [upperFirst_ne_empty (h item hitem)]

/-- Nor does a suffix. -/
theorem AllNamed.addSuffix (h : AllNamed items) : AllNamed (addSuffix options items) := by
  unfold Stage.addSuffix
  split
  · exact h
  · rename_i ending hending
    intro renamed hmem
    obtain ⟨item, hitem, rfl⟩ := List.mem_map.1 hmem
    simp [h item hitem]

/-- With both options the order of the two stages shows in items without a name, if the suffix
begins with a letter that is capitalized. -/
theorem addSuffix_addPrefix_iff {start ending : String}
    (hstart : Key.addPrefix.optional? Shape.string options = some start)
    (hending : Key.addSuffix.optional? Shape.string options = some ending) :
    Stage.addSuffix options (Stage.addPrefix options items) =
        Stage.addPrefix options (Stage.addSuffix options items) ↔
      ∀ item ∈ items, Named.name item ≠ "" ∨ upperFirst ending = ending := by
  simp only [Stage.addSuffix, Stage.addPrefix, hstart, hending, List.map_map, List.map_inj_left]
  refine forall₂_congr fun item _ => ?_
  simp only [Function.comp_apply, LawfulNamed.name_rename, LawfulNamed.rename_rename, rename_inj,
    String.append_assoc, String.append_right_inj]
  rw [eq_comm, upperFirst_append_iff]

/-- The suffix of items with names does not notice whether the prefix is there already. If either of
the two is not given, its stage does nothing and there is nothing to show. -/
theorem addSuffix_addPrefix (h : AllNamed items) :
    Stage.addSuffix options (Stage.addPrefix options items) =
      Stage.addPrefix options (Stage.addSuffix options items) := by
  cases hstart : Key.addPrefix.optional? Shape.string options with
  | none => simp only [Stage.addPrefix, hstart]
  | some start =>
    cases hending : Key.addSuffix.optional? Shape.string options with
    | none => simp only [Stage.addSuffix, hending]
    | some ending =>
      exact (addSuffix_addPrefix_iff hstart hending).2 fun item hmem => .inl (h item hmem)

end

/-! ### Any number of stages -/

section
variable {α : Type} {inv : List α → Prop}

/-- Of two stages either may run first, on lists with an invariant and under any options. -/
def CommuteOn (inv : List α → Prop) (first last : Stage α) : Prop :=
  ∀ options items, inv items →
    last options (first options items) = first options (last options items)

/-- That two stages commute does not depend on which one comes first. -/
theorem CommuteOn.symm {first last : Stage α} (h : CommuteOn inv first last) :
    CommuteOn inv last first :=
  fun options items hitems => (h options items hitems).symm

/-- Stages that keep an invariant and commute pairwise on the lists that have it give the same
result in every order. -/
theorem run_perm {stages others : List (Stage α)} (hperm : stages.Perm others)
    (hkeeps : ∀ stage ∈ stages, ∀ options items, inv items → inv (stage options items))
    (hcommute : stages.Pairwise (CommuteOn inv)) (entry : Option Value) {items : List α}
    (h : inv items) : run stages entry items = run others entry items := by
  induction hperm generalizing items with
  | nil => rfl
  | cons stage _ ih =>
    show run _ entry (stage (options? entry) items) = run _ entry (stage (options? entry) items)
    exact ih (fun other hmem => hkeeps other (List.mem_cons_of_mem _ hmem))
      (List.pairwise_cons.1 hcommute).2 (hkeeps stage List.mem_cons_self _ _ h)
  | swap first last rest =>
    have hswap := (List.pairwise_cons.1 hcommute).1 first List.mem_cons_self
    show run rest entry (first _ (last _ items)) = run rest entry (last _ (first _ items))
    rw [hswap (options? entry) items h]
  | trans hperm _ ih₁ ih₂ =>
    rw [ih₁ hkeeps hcommute h]
    exact ih₂ (fun stage hmem => hkeeps stage (hperm.mem_iff.2 hmem))
      ((hperm.pairwise_iff CommuteOn.symm).1 hcommute) h

end

end Stage

namespace Color

/-! ### The stages of a colour catalog -/

/-- The channels do not depend on names. -/
theorem Renames.commuteOn_hexToRgba {stage : Stage Color} (h : Renames stage)
    (inv : List Color → Prop) : Stage.CommuteOn inv stage hexToRgba := by
  intro options colors _
  obtain ⟨change, hchange⟩ := h options
  simp only [hchange, hexToRgba, List.map_map]
  rfl

/-- Any two of the stages commute on items that have names. -/
theorem commuteOn_stages : stages.Pairwise (Stage.CommuteOn Stage.AllNamed) := by
  have hrenaming : Stage.CommuteOn (α := Color) Stage.AllNamed Stage.addPrefix Stage.addSuffix :=
    fun _ _ h => Stage.addSuffix_addPrefix h
  simp only [stages, List.pairwise_cons, List.mem_cons, List.not_mem_nil, or_false,
    forall_eq_or_imp, forall_eq]
  exact ⟨⟨hrenaming, renames_addPrefix.commuteOn_hexToRgba _⟩,
    renames_addSuffix.commuteOn_hexToRgba _, fun _ h => h.elim, .nil⟩

/-- Every stage keeps the items named, so the next exchange can be made. -/
theorem allNamed_of_mem_stages {stage : Stage Color} (hstage : stage ∈ stages)
    (options : Option Value) (colors : List Color) (h : Stage.AllNamed colors) :
    Stage.AllNamed (stage options colors) := by
  simp only [stages, List.mem_cons, List.not_mem_nil, or_false] at hstage
  rcases hstage with rfl | rfl | rfl
  · exact h.addPrefix
  · exact h.addSuffix
  · intro color hmem
    obtain ⟨before, hbefore, rfl⟩ := List.mem_map.1 hmem
    exact h before hbefore

/-- Prefix and suffix may be added in either order to items of any kind, under any options, and the
stages of a colour catalog may run in every order, as long as no name is empty. -/
theorem renaming_commutes :
    (∀ (α : Type) [Named α] [LawfulNamed α] (options : Option Value) (items : List α),
      Stage.AllNamed items →
        Stage.addSuffix options (Stage.addPrefix options items) =
          Stage.addPrefix options (Stage.addSuffix options items)) ∧
    ∀ order : List (Stage Color), order.Perm [Stage.addPrefix, Stage.addSuffix, hexToRgba] →
      ∀ entry colors, Stage.AllNamed colors →
        Stage.run order entry colors =
          Stage.run [Stage.addPrefix, Stage.addSuffix, hexToRgba] entry colors := by
  refine ⟨fun α _ _ options items h => Stage.addSuffix_addPrefix h, ?_⟩
  intro order horder entry colors h
  exact (Stage.run_perm horder.symm (fun _ => allNamed_of_mem_stages) commuteOn_stages entry h).symm

/-- The first letter of the name has two capitals. So the prefix makes the name longer in its
middle, and still the suffix comes out in the same place. -/
theorem renaming_commutes_sharp :
    let options := Value.object [("addPrefix", .string "p"), ("addSuffix", .string "s")]
    let images := [Image.mk "ßa" "ßa.svg" none]
    let colors := [ofHexes "ßa" "#A00000" (some "#B0")]
    let order := [hexToRgba, Stage.addSuffix, Stage.addPrefix]
    let entry := some (.object [("process", options)])
    Stage.AllNamed images ∧
    Stage.addSuffix (some options) (Stage.addPrefix (some options) images) =
      Stage.addPrefix (some options) (Stage.addSuffix (some options) images) ∧
    order.Perm stages ∧ Stage.AllNamed colors ∧
    Stage.run order entry colors = Stage.run stages entry colors ∧
    (Stage.run order entry colors).map Color.name = ["pSSas"] := by
  intro options images colors order entry
  obtain ⟨htwo, hthree⟩ := renaming_commutes
  have himages : Stage.AllNamed images := List.forall_mem_singleton.2 (by decide)
  have hcolors : Stage.AllNamed colors := List.forall_mem_singleton.2 (by decide)
  have horder : order.Perm stages := List.reverse_perm stages
  exact ⟨himages, htwo Image (some options) images himages, horder, hcolors,
    hthree order horder entry colors hcolors, by decide +kernel⟩

end Color

end DesignTokens
