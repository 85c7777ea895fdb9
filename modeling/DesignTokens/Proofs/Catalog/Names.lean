import DesignTokens.Catalog.Image
import DesignTokens.Generate.Manifest
import DesignTokens.Proofs.Catalog.Color
import DesignTokens.Proofs.Files.Spelling
import DesignTokens.Proofs.Text.Case

/-!
# Names as components of paths

Names become parts of paths as they are, so it matters which of them hold a slash. The camelCase
rule leaves no character that names are cut at (`not_mem_camelCaseText`), so a name that comes from
the name of a file never has a slash, and the stages add one only if an option has one
(`SlashFree.finalName`). In a set the name of the dark file is never that of the light one
(`Image.fileNameOf_dark_ne`).
-/

set_option autoImplicit false

namespace DesignTokens

/-! ### Characters of texts -/

namespace Text

/-- A slash is a character that names are cut at. -/
theorem reserved_slash : Reserved '/' :=
  .inr (by decide)

/-- A character in neither of two texts is not in the two together. -/
theorem not_mem_append {c : Char} {first second : String} (hfirst : c ∉ first.toList)
    (hsecond : c ∉ second.toList) : c ∉ (first ++ second).toList := by
  rw [String.toList_append, List.mem_append]
  exact not_or_intro hfirst hsecond

/-- Neither is it in a join of pieces that do not have it, unless it is the separator. -/
theorem not_mem_join {c : Char} {separator : List Char} {pieces : List (List Char)}
    (hseparator : c ∉ separator) (h : ∀ piece ∈ pieces, c ∉ piece) :
    c ∉ join separator pieces := by
  induction pieces with
  | nil => exact List.not_mem_nil
  | cons piece pieces ih =>
    have hpiece := h piece List.mem_cons_self
    have hpieces := ih fun other hmem => h other (List.mem_cons_of_mem _ hmem)
    cases pieces with
    | nil => exact hpiece
    | cons next rest =>
      rw [join, List.mem_append, List.mem_append]
      · exact not_or_intro (not_or_intro hpiece hseparator) hpieces
      · simp

/-- A character of a piece is one of the whole join. -/
theorem mem_join_of_mem {c : Char} {piece : List Char} {pieces : List (List Char)}
    (hpiece : piece ∈ pieces) (hc : c ∈ piece) (separator : List Char) :
    c ∈ join separator pieces := by
  induction pieces with
  | nil => cases hpiece
  | cons first rest ih =>
    cases rest with
    | nil => exact List.mem_singleton.1 hpiece ▸ hc
    | cons next rest =>
      rw [join, List.mem_append, List.mem_append]
      · rcases List.mem_cons.1 hpiece with rfl | hmem
        · exact Or.inl (Or.inl hc)
        · exact Or.inr (ih hmem)
      · simp

/-- Cutting a text makes no characters. -/
theorem mem_of_mem_splitOn {c separator : Char} {piece text : List Char}
    (hpiece : piece ∈ splitOn separator text) (hc : c ∈ piece) : c ∈ text := by
  rw [← join_splitOn separator text]
  exact mem_join_of_mem hpiece hc [separator]

end Text

/-! ### The camelCase rule -/

namespace Naming

/-- A pass makes no separator but the space. -/
theorem not_mem_capitalizePieces {c : Char} (hc : Text.Reserved c) (hspace : c ≠ ' ')
    {text : List Char} {separator : Char} (h : c ∉ text ∨ c = separator) :
    c ∉ capitalizePieces text separator := by
  have hseparator : c ∉ [' '] := fun hmem => hspace (List.mem_singleton.1 hmem)
  apply Text.not_mem_join hseparator
  intro piece hpiece
  obtain ⟨raw, hraw, rfl⟩ := List.mem_map.1 hpiece
  have hmem := (List.mem_filter.1 hraw).1
  apply Text.not_mem_upperFirst hc
  rcases h with htext | rfl
  · exact fun hraw => htext (Text.mem_of_mem_splitOn hmem hraw)
  · exact Text.not_mem_of_mem_splitOn hmem

/-- A separator that was cut at does not come back. -/
theorem not_mem_foldl {c : Char} (hc : Text.Reserved c) (hspace : c ≠ ' ') {text cuts : List Char}
    (h : c ∉ text ∨ c ∈ cuts) : c ∉ cuts.foldl capitalizePieces text := by
  induction cuts generalizing text with
  | nil => simpa using h
  | cons cut cuts ih =>
    apply ih
    rcases h with htext | hcuts
    · exact .inl (not_mem_capitalizePieces hc hspace (.inl htext))
    · rcases List.mem_cons.1 hcuts with hcut | hlater
      · exact .inl (not_mem_capitalizePieces hc hspace (.inr hcut))
      · exact .inr hlater

/-- Nothing that names are cut at is left, and no blank. The passes remove the separators, the
filter behind them removes the blanks, and the last step, which lowers the first letter, brings
neither back. -/
theorem not_mem_camelCaseText {c : Char} (hc : Text.Reserved c) (text : List Char) :
    c ∉ camelCaseText text := by
  apply Text.not_mem_lowerFirst hc
  intro hmem
  obtain ⟨htext, hkept⟩ := List.mem_filter.1 hmem
  by_cases hblank : Text.isBlank c = true
  · simp [hblank] at hkept
  · have hspace : c ≠ ' ' := by
      rintro rfl
      exact hblank (by decide)
    exact not_mem_foldl hc hspace (.inr (hc.resolve_left hblank)) htext

end Naming

/-! ### Names of files -/

/-- The file name of a path has no slash. -/
theorem Path.not_mem_of_fileName? {path name : String} (h : Path.fileName? path = some name) :
    '/' ∉ name.toList := by
  unfold Path.fileName? at h
  split at h
  · rename_i piece hpiece
    split at h
    · cases h
    · have hmem := (List.mem_filter.1 (List.mem_of_getLast? hpiece)).1
      rw [← Option.some.inj h, String.toList_ofList]
      exact Text.not_mem_of_mem_splitOn hmem
  · cases h

/-- Nor has the name that is derived from it. -/
theorem not_mem_camelCaseFileName (path : String) : '/' ∉ (camelCaseFileName path).toList := by
  rw [camelCaseFileName, String.toList_ofList]
  exact Naming.not_mem_camelCaseText Text.reserved_slash _

namespace Image

/-- What a file name in a set adds to its stem. -/
theorem fileNameOf_eq (stem source : String) :
    fileNameOf stem source = stem ++ ((Path.extension? source).map ("." ++ ·)).getD "" := by
  rw [fileNameOf]
  cases Path.extension? source with
  | none => simp
  | some extension => simp [String.append_assoc]

/-- Nor has a derived name with the ending of its source. The ending is what stands behind the last
dot of a file name, which has no slash. -/
theorem not_mem_fileNameOf {stem : String} (h : '/' ∉ stem.toList) (source : String) :
    '/' ∉ (fileNameOf stem source).toList := by
  rw [fileNameOf]
  cases hextension : Path.extension? source with
  | none => exact h
  | some extension =>
    obtain ⟨name, hname, hpieces⟩ := Option.bind_eq_some_iff.1 hextension
    have hslash := Path.not_mem_of_fileName? hname
    refine Text.not_mem_append (Text.not_mem_append h (by decide)) ?_
    simp only at hpieces
    split at hpieces
    · cases hpieces
    · obtain ⟨piece, hpiece, rfl⟩ := Option.map_eq_some_iff.1 hpieces
      rw [String.toList_ofList]
      exact fun hmem => hslash (Text.mem_of_mem_splitOn (List.mem_of_getLast? hpiece) hmem)

/-- The dark file of a name never has the name of a light one: behind the stem, one goes on with
`Dark` and the other with a dot or nothing. So the two files of an image never overwrite each
other. -/
theorem fileNameOf_dark_ne (stem dark light : String) :
    fileNameOf (stem ++ "Dark") dark ≠ fileNameOf stem light := by
  intro h
  rw [fileNameOf_eq, fileNameOf_eq, String.append_assoc, String.append_right_inj] at h
  have hhead := congrArg (fun text => text.toList.head?) h
  cases hextension : Path.extension? light with
  | none => simp [hextension] at hhead
  | some extension => simp [hextension] at hhead

end Image

/-! ### Final names -/

/-- The options put no slash into names. -/
structure SlashFree (options : Option Value) : Prop where
  start : ∀ start ∈ Key.addPrefix.optional? Shape.string options, '/' ∉ start.toList
  ending : ∀ ending ∈ Key.addSuffix.optional? Shape.string options, '/' ∉ ending.toList

/-- Options without a slash bring none into the final name of a colour. The name itself may get a
new first letter behind the prefix; no letter has a slash in its upper case form. -/
theorem SlashFree.finalName {options : Option Value} (h : SlashFree options) {name : String}
    (hname : '/' ∉ name.toList) : '/' ∉ (Color.finalName options name).toList := by
  have hupper : '/' ∉ (upperFirst name).toList := by
    rw [upperFirst, String.toList_ofList]
    exact Text.not_mem_upperFirst Text.reserved_slash hname
  unfold Color.finalName
  cases hstart : Key.addPrefix.optional? Shape.string options with
  | none =>
    cases hending : Key.addSuffix.optional? Shape.string options with
    | none => exact hname
    | some ending => exact Text.not_mem_append hname (h.ending ending hending)
  | some start =>
    have hprefixed := Text.not_mem_append (h.start start hstart) hupper
    cases hending : Key.addSuffix.optional? Shape.string options with
    | none => exact hprefixed
    | some ending => exact Text.not_mem_append hprefixed (h.ending ending hending)

/-- A name with a kind of folder behind it is a component of a path. -/
theorem FileTree.properName_append {name ending : String} (hname : '/' ∉ name.toList)
    (hending : '/' ∉ ending.toList) (hlength : 2 < ending.length) :
    ProperName (name ++ ending) := by
  have hsum : (name ++ ending).length = name.length + ending.length := String.length_append ..
  refine ⟨?_, ?_, ?_, Text.not_mem_append hname hending⟩
  · intro heq
    rw [heq, String.length_empty] at hsum
    omega
  · intro heq
    rw [heq, show (".").length = 1 from rfl] at hsum
    omega
  · intro heq
    rw [heq, show ("..").length = 2 from rfl] at hsum
    omega

/-- So is the name of the manifests. -/
theorem Manifest.properName_fileName : FileTree.ProperName Manifest.fileName :=
  ⟨by decide, by decide, by decide, by decide⟩

/-- The manifest of a directory is spelled one step below it. -/
theorem Manifest.spelled_pathIn (current : Location) (directory : String) :
    FileTree.spelled current (pathIn directory) =
      FileTree.spelled current directory ++ [fileName] := by
  have hbelow := (FileTree.Below.self directory).join properName_fileName
  exact hbelow.spelled_append (by simp [properName_fileName]) current

end DesignTokens
