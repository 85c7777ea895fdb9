import DesignTokens.Proofs.Generate.ImageNames
import DesignTokens.Proofs.Value.Lines

/-!
# Image manifests as JSON

`document` is what a manifest of an image means to say: its files, the light one first, and the
properties of the entry. The template puts the names of files and the keys of properties between
quotes as they are, and encodes the values of properties only. So the text of a manifest is its
document exactly if these names and keys are plain (`isDocument_manifest_iff`), whatever the values
are. The text is taken apart into its lines first (`toList_manifest`), and the lines are read from
the outside in (`reads_manifestLines_iff`). A name with a quote can leave no JSON at all
(`not_isDocument_of_quote`).
-/

set_option autoImplicit false

namespace DesignTokens.ImageSet

open DesignTokens.Action DesignTokens.BundledTemplate DesignTokens.Json DesignTokens.Template
open DesignTokens.Value
open DesignTokens.FileTree (LinksStay linkless_of_entries)

/-! ### Documents -/

/-- What a manifest says of a file. -/
def fileMembers (name : String) : Members :=
  [("filename", .string name), ("idiom", .string "universal")]

/-- The appearances of a dark file. -/
def darkAppearances : Value :=
  .array [.object [("appearance", .string "luminosity"), ("value", .string "dark")]]

/-- What a manifest says of its files: the light one first and, if there is one, the dark one. -/
def imageItems (file : String) (dark : Option String) : List Value :=
  .object (fileMembers file) ::
    (dark.map fun name => .object (("appearances", darkAppearances) :: fileMembers name)).toList

/-- What a manifest says of itself. -/
def info : Value :=
  .object [("author", .string "xcode"), ("version", .number (.integer 1))]

/-- The document of an image: its files, and the properties if there are any. -/
def document (file : String) (dark : Option String) (properties : Members) : Value :=
  .object (("images", .array (imageItems file dark)) :: ("info", info) ::
    if properties.isEmpty then [] else [("properties", .object properties)])

/-! ### Lines -/

/-- The lines of a file, and what follows them. -/
def fileLines (name : String) (tail : List Char) : List Char :=
  line 3 "filename"
    (raw name (',' :: line 3 "idiom" (raw "universal" (lineBreak 2 ++ '}' :: tail))))

/-- The lines of the appearances of a dark file, and what follows them. -/
def appearanceLines (tail : List Char) : List Char :=
  '[' :: (lineBreak 4 ++ '{' :: line 5 "appearance" (raw "luminosity" (',' ::
    line 5 "value" (raw "dark" (lineBreak 4 ++ '}' :: (lineBreak 3 ++ ']' :: tail))))))

/-- The lines of the dark file, if there is one. -/
def darkLines (dark : Option String) (tail : List Char) : List Char :=
  match dark with
  | none => tail
  | some name =>
    ',' :: (lineBreak 2 ++ '{' ::
      line 3 "appearances" (appearanceLines (',' :: fileLines name tail)))

/-- The lines of all files. -/
def imageLines (file : String) (dark : Option String) (tail : List Char) : List Char :=
  '[' :: (lineBreak 2 ++ '{' :: fileLines file (darkLines dark (lineBreak 1 ++ ']' :: tail)))

/-- The lines of what a manifest says of itself. -/
def infoLines (tail : List Char) : List Char :=
  '{' :: line 2 "author" (raw "xcode" (',' ::
    line 2 "version" ('1' :: (lineBreak 1 ++ '}' :: tail))))

/-- The lines of the properties, if there are any. -/
def propertyLines (properties : Members) (tail : List Char) : List Char :=
  if properties.isEmpty then tail
  else
    ',' :: line 1 "properties" ('{' :: memberLines 2 properties (lineBreak 1 ++ '}' :: tail))

/-- The lines of a manifest. -/
def manifestLines (file : String) (dark : Option String) (properties : Members)
    (tail : List Char) : List Char :=
  '{' :: line 1 "images" (imageLines file dark (',' :: line 1 "info" (infoLines
    (propertyLines properties (lineBreak 0 ++ '}' :: tail)))))

section
variable {text rest : List Char}

/-- The words of a manifest are plain. -/
theorem plain_words : Plain "filename" ∧ Plain "idiom" ∧ Plain "universal" ∧ Plain "appearances" ∧
    Plain "appearance" ∧ Plain "luminosity" ∧ Plain "value" ∧ Plain "dark" ∧ Plain "author" ∧
    Plain "xcode" ∧ Plain "version" ∧ Plain "images" ∧ Plain "info" ∧ Plain "properties" := by
  decide

/-- The line with a file name reads back as its member exactly if the name needs no escape. -/
theorem readsMembers_fileLines_iff {name : String} :
    ReadsMembers true (fileMembers name) (fileLines name text) rest ↔ Plain name ∧ rest = text := by
  simp [fileMembers, fileLines, readsMembers_line_iff, reads_raw_iff, readsMembers_comma_iff,
    readsMembers_close_iff, plain_words]

/-- The lines for the dark appearance are fixed, so they always read back. -/
theorem reads_appearanceLines_iff :
    Reads darkAppearances (appearanceLines text) rest ↔ rest = text := by
  simp [darkAppearances, appearanceLines, reads_array_iff, readsItems_line_iff, reads_object_iff,
    readsMembers_line_iff, reads_raw_iff, readsMembers_comma_iff, readsMembers_close_iff,
    readsItems_close_iff, plain_words]

/-- The list of images reads back exactly if the file names in it are plain. -/
theorem reads_imageLines_iff {file : String} {dark : Option String} :
    Reads (.array (imageItems file dark)) (imageLines file dark text) rest ↔
      Plain file ∧ (∀ name ∈ dark, Plain name) ∧ rest = text := by
  cases dark with
  | none =>
    simp [imageItems, imageLines, darkLines, reads_array_iff, readsItems_line_iff, reads_object_iff,
      readsMembers_fileLines_iff, readsItems_close_iff]
  | some name =>
    have hfile {text rest : List Char} :
        ReadsMembers false (fileMembers name) (',' :: fileLines name text) rest ↔
          Plain name ∧ rest = text :=
      readsMembers_comma_iff.trans readsMembers_fileLines_iff
    simp [imageItems, imageLines, darkLines, reads_array_iff, readsItems_line_iff, reads_object_iff,
      readsMembers_fileLines_iff, readsItems_close_iff, readsItems_comma_iff, readsMembers_line_iff,
      reads_appearanceLines_iff, hfile, plain_words, and_assoc]

/-- The lines with author and version are fixed as well. -/
theorem reads_infoLines_iff : Reads info (infoLines text) rest ↔ rest = text := by
  have hone {rest : List Char} :
      Reads (.number (.integer 1)) ('1' :: (lineBreak 1 ++ '}' :: text)) rest ↔
        rest = lineBreak 1 ++ '}' :: text := by
    have hends : Ends (lineBreak 1 ++ '}' :: text) := by simp [Ends, lineBreak, isNumeral]
    have hencode : Value.encode (.number (.integer 1)) = ['1'] := by decide
    have hreads := @reads_encode_iff (.number (.integer 1)) (.number (.integer 1)) _ rest hends
    rw [hencode] at hreads
    simpa using hreads
  simp [info, infoLines, reads_object_iff, readsMembers_line_iff, reads_raw_iff,
    readsMembers_comma_iff, readsMembers_close_iff, plain_words, hone]

/-- The lines of a manifest are its document if the names of its files and the keys of its
properties are plain. -/
theorem reads_manifestLines_iff {file : String} {dark : Option String} {properties : Members} :
    Reads (document file dark properties) (manifestLines file dark properties text) rest ↔
      (Plain file ∧ (∀ name ∈ dark, Plain name) ∧ ∀ member ∈ properties, Plain member.1) ∧
        rest = text := by
  cases hempty : properties.isEmpty with
  | true =>
    obtain rfl := List.isEmpty_iff.1 hempty
    simp [document, manifestLines, propertyLines, reads_object_iff, readsMembers_line_iff,
      reads_imageLines_iff, reads_infoLines_iff, readsMembers_comma_iff, readsMembers_close_iff,
      plain_words, and_assoc]
  | false =>
    simp [document, manifestLines, propertyLines, hempty, reads_object_iff, readsMembers_line_iff,
      reads_imageLines_iff, reads_infoLines_iff, readsMembers_comma_iff, readsMembers_close_iff,
      readsMembers_memberLines_iff, plain_words, and_assoc]

/-- The pieces of a property are its line, and a comma unless it is the last. -/
theorem toList_propertyPieces (count index : Nat) (key : String) (value : Value)
    (tail : List Char) :
    (String.join (propertyPieces count index (some key, value))).toList ++ tail =
      line 2 key (value.encode ++ ((if index + 1 = count then [] else [',']) ++ tail)) := by
  rw [String.toList_join]
  simp [propertyPieces, line, raw, lineBreak, List.replicate]
  split <;> rfl

/-- The loop over the properties writes their lines. The induction is on those that remain. -/
theorem toList_propertyLoop (properties : Members) (index : Nat) (tail : List Char) :
    (String.join ((properties.map fun (key, value) => (some key, value)).mapIdx fun i item =>
      String.join (propertyPieces (index + properties.length) (index + i) item))).toList ++ tail =
      memberLines 2 properties tail := by
  induction properties generalizing index with
  | nil => rfl
  | cons property properties ih =>
    obtain ⟨key, value⟩ := property
    have hbelow := ih (index + 1)
    rw [show index + 1 + properties.length = index + (properties.length + 1) by omega] at hbelow
    rw [List.map_cons, List.mapIdx_cons, String.join_cons, String.toList_append, List.append_assoc,
      toList_propertyPieces, List.length_cons]
    simp only [Nat.add_assoc, Nat.add_comm 1] at hbelow ⊢
    rw [hbelow]
    cases properties with
    | nil => simp [memberLines]
    | cons => simp [memberLines]

/-- The text that is rendered for the properties, in the form in which it is read. -/
theorem toList_propertiesText (properties : Members) (tail : List Char) :
    (propertiesText properties).toList ++ tail = propertyLines properties tail := by
  rw [propertiesText, propertyLines]
  split
  · rfl
  · have hloop := toList_propertyLoop properties 0 (lineBreak 1 ++ '}' :: tail)
    simp only [Nat.zero_add] at hloop
    rw [← hloop, String.toList_join]
    simp [loopText, line, raw, lineBreak, List.replicate]

/-- The same for the head of a dark entry. -/
theorem toList_darkHead (tail : List Char) :
    darkHead.toList ++ tail = ',' :: (lineBreak 2 ++ '{' ::
      line 3 "appearances" (appearanceLines (',' :: (lineBreak 3 ++ tail)))) := by
  unfold darkHead
  rw [String.toList_append, String.toList_append]
  rfl

/-- The same for the whole dark entry, which is missing without a dark file. -/
theorem toList_darkText (dark : Option String) (tail : List Char) :
    (darkText dark).toList ++ tail = darkLines dark tail := by
  cases dark with
  | none => rfl
  | some name =>
    rw [darkText, String.toList_join, List.flatMap_cons, String.toList_append, List.append_assoc,
      List.append_assoc, toList_darkHead, List.flatMap_cons, List.flatMap_cons, List.flatMap_nil,
      List.append_nil, List.append_assoc]
    rfl

/-- The text of a manifest has these lines. The template is rendered to a join of texts, while the
grammar reads line by line, and here the two forms meet. -/
theorem toList_manifest (file : String) (dark : Option String) (properties : Members) :
    (manifest file dark properties).toList = manifestLines file dark properties ['\n'] := by
  have hproperties := toList_propertiesText properties (lineBreak 0 ++ '}' :: ['\n'])
  rw [manifestLines, ← hproperties]
  rw [manifest, String.toList_join, imageLines, fileLines, ← toList_darkText]
  simp only [List.flatMap_cons, List.flatMap_nil, List.append_nil]
  rfl

end

/-- A manifest is its document exactly if the names of its files and the keys of its properties are
plain. -/
theorem isDocument_manifest_iff {file : String} {dark : Option String} {properties : Members} :
    IsDocument (manifest file dark properties) (document file dark properties) ↔
      Plain file ∧ (∀ name ∈ dark, Plain name) ∧ ∀ member ∈ properties, Plain member.1 := by
  rw [IsDocument, toList_manifest]
  simp only [reads_manifestLines_iff]
  constructor
  · rintro ⟨rest, ⟨hplain, -⟩, -⟩
    exact hplain
  · exact fun hplain => ⟨['\n'], ⟨hplain, rfl⟩, rfl⟩

/-! ### Names with quotes -/

/-- A quote in the name of a file ends the string, and the manifest is no JSON unless what follows
could follow a string. -/
theorem not_isDocument_of_quote {file before : String} {more : List Char}
    (hfile : file.toList = before.toList ++ '"' :: more) (hbefore : Plain before)
    (hmore : ∀ c ∈ more.head?, c ≠ ',' ∧ c ≠ '}' ∧ isSpace c = false) (dark : Option String)
    (properties : Members) (value : Value) :
    ¬ IsDocument (manifest file dark properties) value := by
  rintro ⟨rest, hreads, -⟩
  rw [toList_manifest, manifestLines] at hreads
  obtain ⟨members, rfl, hmembers⟩ := hreads.exists_object
  obtain ⟨images, others, between, rfl, himages, -⟩ := hmembers.exists_line (by decide)
  obtain ⟨items, rfl, hitems⟩ := himages.exists_array
  obtain ⟨item, others, between, rfl, hitem, -⟩ := hitems.exists_line rfl (by decide)
  obtain ⟨fields, rfl, hfields⟩ := hitem.exists_object
  obtain ⟨name, others, between, rfl, hname, hothers⟩ := hfields.exists_line (by decide)
  obtain ⟨s, rfl, hstring⟩ := hname.exists_string
  -- the string ends in front of the rest of the name
  rw [hfile, List.append_assoc, List.cons_append] at hstring
  have hshort (tail : List Char) :
      readString (before.toList ++ '"' :: tail) = .ok (before, tail) :=
    readString_raw_iff.2 ⟨hbefore, rfl⟩
  cases (hshort _).symm.trans hstring
  cases more with
  | nil => exact absurd (hothers.head rfl) (by decide)
  | cons c more =>
    obtain ⟨hcomma, hbrace, hspace⟩ := hmore c rfl
    exact (hothers.head hspace).elim hcomma hbrace

/-! ### Runs -/

/-- The manifest of an image of an entry. -/
def manifestOf (entry : Value) (image : Image) : String :=
  manifest image.file image.darkFile (propertiesOf entry)

/-- The document of an image of an entry. -/
def documentOf (entry : Value) (image : Image) : Value :=
  document image.file image.darkFile (propertiesOf entry)

section
variable {project : Project} {entry : Value} {world world' : World}

/-- The manifests that an entry wrote into a tree. The sets of its images are written in turn, each
with its manifest (`sets`), and a manifest stands unless something later leads to the same file
(`stands`). Its text is the document of the files of the image and of the properties of the entry,
exactly if the names of these files and the keys of these properties are plain (`document`). -/
structure Manifests (plan : Plan) (entry : Value) (old new : FileTree) : Prop where
  sets : setsOf plan entry old = (.ok (), new)
  stands : LinksStay old new → ∀ earlier image later,
    plan.images old entry = earlier ++ image :: later →
    Unwritten new (manifestPath plan.catalog image) (usesBehindManifest plan.catalog later) →
    new.read (manifestPath plan.catalog image) = .ok (manifestOf entry image).toUTF8
  document : ∀ image ∈ plan.images old entry,
    IsDocument (manifestOf entry image) (documentOf entry image) ↔
      Plain image.file ∧ (∀ name ∈ image.darkFile, Plain name) ∧
        ∀ member ∈ propertiesOf entry, Plain member.1

/-- An entry that succeeds wrote the manifests of its images. -/
theorem imageManifests_of_generate [Engine]
    (h : outcome (generate project entry) world = (.ok (), world')) :
    ∃ plan, Plan.read project entry = .ok plan ∧
      Manifests plan entry world.tree world'.tree := by
  obtain ⟨plan, start, finish, hplan, hstart, hcatalog, hfinish⟩ := generate_steps h
  refine ⟨plan, hplan, ?_, ?_, fun _ _ => isDocument_manifest_iff⟩
  · have heffect := effect_of_outcome (ignoresLog_writeCatalog _ _ _ _ start) hcatalog
    rw [effect_writeCatalog, hstart, ← hfinish] at heffect
    exact heffect
  · intro hlinks earlier image later himages hother
    exact read_manifest_of_generate h hplan hlinks himages hother

end

/-! ### An image with a quote in its name -/

/-- A tree with an image that has a dark file, and an image whose name holds a quote. -/
def quoted : FileTree :=
  ⟨[(["dark"], .directory), (["dark", "a.svg"], .file ⟨#[67]⟩),
    (["in"], .directory), (["in", "a.svg"], .file ⟨#[65]⟩),
    (["in", "b\".svg"], .file ⟨#[66]⟩)], []⟩

/-- An entry for the images of that tree. -/
def quotedEntry : Value :=
  .object [("adaptive", .string "dark"), ("input", .string "in"), ("output", .string "out"),
    ("properties", .object [("preserves-vector-representation", .bool true)])]

/-- The directories of that entry. -/
def quotedPlan : Plan :=
  ⟨"out", "in", some "dark"⟩

/-- The image with the dark file. -/
def plainImage : Image :=
  ⟨"a", "in/a.svg", some "dark/a.svg"⟩

/-- The image with the quote in its name. -/
def quotedImage : Image :=
  ⟨"b\"", "in/b\".svg", none⟩

/-- The section of the fixture is read as this plan. -/
theorem read_quotedPlan : Plan.read blankProject quotedEntry = .ok quotedPlan := by
  decide +kernel

/-- The plan has two images, the plain one first. -/
theorem images_quoted :
    quotedPlan.images quoted quotedEntry = [plainImage] ++ quotedImage :: [] := by
  decide +kernel

/-- A run over a file name with a quote succeeds, and the plain image before it is copied. -/
theorem generate_quoted [Engine] : ∃ world',
    outcome (generate blankProject quotedEntry) ⟨quoted, []⟩ = (.ok (), world') ∧
      world'.tree.read "out/a.imageset/a.svg" = .ok ⟨#[65]⟩ :=
  generate_of_readBehind read_quotedPlan (by decide +kernel) (by decide +kernel)

open scoped Engine in
/-- The manifest of the image with the dark file is its document, and that of the other one is
not. -/
theorem imageManifests_of_generate_quoted : ∃ world',
    outcome (generate blankProject quotedEntry) ⟨quoted, []⟩ = (.ok (), world') ∧
      ∃ plan, Plan.read blankProject quotedEntry = .ok plan ∧
        Manifests plan quotedEntry quoted world'.tree ∧
        IsDocument (manifestOf quotedEntry plainImage) (documentOf quotedEntry plainImage) ∧
        ¬ IsDocument (manifestOf quotedEntry quotedImage) (documentOf quotedEntry quotedImage) := by
  obtain ⟨world', h, -⟩ := generate_quoted
  obtain ⟨plan, hplan, hmanifests⟩ := imageManifests_of_generate h
  refine ⟨world', h, plan, hplan, hmanifests, ?_⟩
  cases read_quotedPlan.symm.trans hplan
  have hdocument := hmanifests.document
  rw [images_quoted] at hdocument
  constructor
  · exact (hdocument plainImage (by simp)).2 (by decide +kernel)
  · intro hquoted
    have hplain : Plain quotedImage.file := ((hdocument quotedImage (by simp)).1 hquoted).1
    revert hplain
    decide +kernel

open scoped Engine in
/-- The manifest of the image with the quote in its name is no JSON: no value is the one that the
text says. -/
theorem unreadable_of_quote : ∃ world',
    outcome (generate blankProject quotedEntry) ⟨quoted, []⟩ = (.ok (), world') ∧
      Plan.read blankProject quotedEntry = .ok quotedPlan ∧
      ∃ image ∈ quotedPlan.images quoted quotedEntry, ∃ text : String,
        world'.tree.read (manifestPath quotedPlan.catalog image) = .ok text.toUTF8 ∧
        ∀ value, ¬ IsDocument text value := by
  obtain ⟨world', h, -⟩ := generate_quoted
  have hlinks : LinksStay quoted world'.tree := (linkless_of_entries (by simp [quoted])).linksStay _
  have hread := read_manifest_of_generate h read_quotedPlan hlinks images_quoted
    (unwritten_last _ _ _)
  have hfile : quotedImage.file.toList = "b".toList ++ '"' :: ".svg".toList := by decide +kernel
  have hmore : ∀ c ∈ ".svg".toList.head?, c ≠ ',' ∧ c ≠ '}' ∧ isSpace c = false := by
    simp [isSpace]
  refine ⟨world', h, read_quotedPlan, quotedImage, ?_, _, hread, ?_⟩
  · rw [images_quoted]
    simp
  · exact not_isDocument_of_quote hfile (by decide) hmore _ _

end DesignTokens.ImageSet
