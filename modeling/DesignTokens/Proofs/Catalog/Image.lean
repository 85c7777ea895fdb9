import DesignTokens.Catalog.Image
import DesignTokens.Proofs.Catalog.Color

/-!
# Images and their stages

The files of an image are among those that are paired (`mem_combine`), and the stages do nothing but
rename images (`run_stages`). Each light file has an image, and the first one of its name takes the
last dark file of that name (`combine_split`).
-/

set_option autoImplicit false

namespace DesignTokens.Image

/-! ### Pairing -/

/-- The source of a paired image is a light file, and its dark form comes from the table. -/
theorem mem_pair {dark : List (String × String)} {any : List String} {image : Image}
    (h : image ∈ pair dark any) :
    image.any ∈ any ∧ ∀ source ∈ image.dark, ∃ name, (name, source) ∈ dark := by
  induction any generalizing dark with
  | nil => cases h
  | cons path paths ih =>
    rw [pair] at h
    rcases List.mem_cons.1 h with rfl | hrest
    · refine ⟨List.mem_cons_self, ?_⟩
      intro source hsource
      exact ⟨_, Keyed.mem_of_lookup hsource⟩
    · obtain ⟨hany, hdark⟩ := ih hrest
      refine ⟨List.mem_cons_of_mem _ hany, ?_⟩
      intro source hsource
      -- a dark file that is left is one of those before
      obtain ⟨name, hmem⟩ := hdark source hsource
      exact ⟨name, (List.mem_filter.1 hmem).1⟩

/-- An image is made of a light file and perhaps a dark one. No other files come in, since the table
of dark files is made of the dark list. -/
theorem mem_combine {any dark : List String} {image : Image} (h : image ∈ combine any dark) :
    image.any ∈ any ∧ ∀ source ∈ image.dark, source ∈ dark := by
  obtain ⟨hany, hdark⟩ := mem_pair h
  refine ⟨hany, ?_⟩
  intro source hsource
  obtain ⟨name, hmem⟩ := hdark source hsource
  obtain ⟨path, hpath, heq⟩ := List.mem_map.1 (Keyed.mem_of_mem_ofList hmem)
  have hsame : path = source := congrArg Prod.snd heq
  exact hsame ▸ hpath

/-- The last dark file of a name. -/
def darkOf (dark : List String) (name : String) : Option String :=
  (dark.filter fun path => camelCaseFileName path = name).getLast?

/-- The table of dark files gives the last one of each derived name. -/
theorem lookup_dark (dark : List String) (name : String) :
    (Keyed.ofList (dark.map fun path => (camelCaseFileName path, path))).lookup name =
      darkOf dark name := by
  rw [Keyed.lookup_ofList, List.filter_map, List.getLast?_map, Option.map_map, darkOf]
  simp only [Function.comp_def, Option.map_id']

/-- If a dark file has the derived name, one is found. -/
theorem darkOf_ne_none {dark : List String} {name : String}
    (h : ∃ path ∈ dark, camelCaseFileName path = name) : darkOf dark name ≠ none := by
  obtain ⟨path, hpath, hname⟩ := h
  rw [darkOf, Ne, List.getLast?_eq_none_iff]
  exact List.ne_nil_of_mem (List.mem_filter.2 ⟨hpath, by simpa using hname⟩)

/-- The image of a light file stands behind those of the files before it. The dark file of its name
is still there if none of them has the name. -/
theorem pair_split (table : List (String × String)) (before : List String) (path : String)
    (after : List String) :
    ∃ earlier image later, pair table (before ++ path :: after) = earlier ++ image :: later ∧
      earlier.map (·.any) = before ∧ image.any = path ∧
      image.name = camelCaseFileName path ∧
      ((∀ other ∈ before, camelCaseFileName other ≠ camelCaseFileName path) →
        image.dark = table.lookup (camelCaseFileName path)) := by
  induction before generalizing table with
  | nil => exact ⟨[], _, _, rfl, rfl, rfl, rfl, fun _ => rfl⟩
  | cons first before ih =>
    obtain ⟨earlier, image, later, hpair, hany, hpath, hname, hdark⟩ :=
      ih (Keyed.erase (camelCaseFileName first) table)
    refine ⟨⟨camelCaseFileName first, first, table.lookup (camelCaseFileName first)⟩ :: earlier,
      image, later, ?_, ?_, hpath, hname, ?_⟩
    · rw [List.cons_append, pair, hpair]
      rfl
    · rw [List.map_cons, hany]
    · intro hbefore
      rw [hdark fun other hmem => hbefore other (List.mem_cons_of_mem _ hmem),
        Keyed.lookup_erase_of_ne (Ne.symm (hbefore first List.mem_cons_self))]

/-! ### Stages -/

/-- What the stages make of an image: it has the name that the options give. -/
def finish (options : Option Value) (image : Image) : Image :=
  { image with name := Color.finalName options image.name }

/-- The stages treat each image on its own, as they do with colours. There are only two of them
here, and both do nothing but rename. -/
theorem run_stages (entry : Option Value) (images : List Image) :
    Stage.run stages entry images = images.map (finish (Stage.options? entry)) := by
  have hrun : Stage.run stages entry images =
      Stage.addSuffix (Stage.options? entry) (Stage.addPrefix (Stage.options? entry) images) := rfl
  rw [hrun]
  have hfinish : finish (Stage.options? entry) =
      fun image => Named.rename image (Color.finalName (Stage.options? entry) image.name) := rfl
  rw [hfinish]
  unfold Stage.addSuffix Stage.addPrefix
  cases hprefix : Key.addPrefix.optional? Shape.string (Stage.options? entry) <;>
    cases hsuffix : Key.addSuffix.optional? Shape.string (Stage.options? entry) <;>
    simp [Color.finalName, hprefix, hsuffix, Named.rename, Named.name]

/-- An image has the name that is derived from its light file. -/
theorem name_of_pair {table : List (String × String)} {any : List String} {image : Image}
    (h : image ∈ pair table any) : image.name = camelCaseFileName image.any := by
  induction any generalizing table with
  | nil => cases h
  | cons path paths ih =>
    rcases List.mem_cons.1 h with rfl | hrest
    · rfl
    · exact ih hrest

/-- An image has the final name of its light file. -/
theorem name_of_run {entry : Option Value} {any dark : List String} {image : Image}
    (h : image ∈ Stage.run stages entry (combine any dark)) :
    image.name = Color.finalName (Stage.options? entry) (camelCaseFileName image.any) := by
  rw [run_stages] at h
  obtain ⟨raw, hraw, rfl⟩ := List.mem_map.1 h
  rw [finish, name_of_pair hraw]

/-- The files of the images of an entry are those that were listed. -/
theorem sources_of_run {entry : Option Value} {any dark : List String} {image : Image}
    (h : image ∈ Stage.run stages entry (combine any dark)) :
    image.any ∈ any ∧ ∀ source ∈ image.dark, source ∈ dark := by
  rw [run_stages] at h
  obtain ⟨raw, hraw, rfl⟩ := List.mem_map.1 h
  have hsources := mem_combine hraw
  exact hsources

/-- The image of a light file among those of an entry. It keeps the place of its file in the list
and has the final form of the name that is derived from the file. The dark file of that name is its
own only if no file before it has the same name, as each dark file is given away once. -/
theorem combine_split {entry : Option Value} {any dark before after : List String} {path : String}
    (h : any = before ++ path :: after) :
    ∃ earlier image later,
      Stage.run stages entry (combine any dark) = earlier ++ image :: later ∧
      earlier.map (·.any) = before ∧ image.any = path ∧
      image.name = Color.finalName (Stage.options? entry) (camelCaseFileName path) ∧
      ((∀ other ∈ before, camelCaseFileName other ≠ camelCaseFileName path) →
        image.dark = darkOf dark (camelCaseFileName path)) := by
  obtain ⟨earlier, image, later, hpair, hany, hpath, hname, hdark⟩ := pair_split
    (Keyed.ofList (dark.map fun path => (camelCaseFileName path, path))) before path after
  refine ⟨earlier.map (finish (Stage.options? entry)), finish (Stage.options? entry) image,
    later.map (finish (Stage.options? entry)), ?_, ?_, hpath, ?_, ?_⟩
  · rw [run_stages, h, combine, hpair, List.map_append, List.map_cons]
  · rw [← hany, List.map_map]
    rfl
  · rw [finish, hname]
  · intro hbefore
    rw [← lookup_dark]
    exact hdark hbefore

end DesignTokens.Image
