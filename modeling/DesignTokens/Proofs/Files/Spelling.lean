import DesignTokens.Proofs.Files.Listing
import Mathlib.Data.List.DropRight

/-!
# Paths as they are spelled

`spelled` resolves `.` and `..` on the text of a path alone. In a tree without links every walk ends
where its path says (`Leads.location_eq`), so a file is written there and nowhere else, and the
directories that are made on the way are leading parts of the path (`Leading`), as `Path.parent?`
gives them.
-/

set_option autoImplicit false

namespace DesignTokens

/-! ### Pieces of paths -/

namespace Text

variable {separator : Char}

/-- No piece of a split text has the separator in it. The induction is on the text: a character goes
into the first piece, or it is the separator and starts a new one. -/
theorem not_mem_of_mem_splitOn {text piece : List Char} (h : piece ∈ splitOn separator text) :
    separator ∉ piece := by
  induction text generalizing piece with
  | nil =>
    simp only [splitOn, List.mem_singleton] at h
    simp [h]
  | cons c rest ih =>
    rw [splitOn] at h
    by_cases hc : c = separator
    · rw [if_pos hc] at h
      rcases List.mem_cons.1 h with rfl | hmem
      · simp
      · exact ih hmem
    · rw [if_neg hc] at h
      -- the character belongs to the first of the pieces
      cases hsplit : splitOn separator rest with
      | nil => exact absurd hsplit (splitOn_ne_nil separator rest)
      | cons first pieces =>
        simp only [hsplit] at h
        rcases List.mem_cons.1 h with rfl | hmem
        · have hfirst := ih (hsplit ▸ List.mem_cons_self)
          simp [Ne.symm hc, hfirst]
        · exact ih (hsplit ▸ List.mem_cons_of_mem _ hmem)

/-- Cutting a join gives the pieces back. -/
theorem splitOn_join {pieces : List (List Char)} (hne : pieces ≠ [])
    (h : ∀ piece ∈ pieces, separator ∉ piece) :
    splitOn separator (join [separator] pieces) = pieces := by
  induction pieces with
  | nil => exact absurd rfl hne
  | cons piece pieces ih =>
    have hpiece := splitOn_of_not_mem (h piece List.mem_cons_self)
    cases pieces with
    | nil => exact hpiece
    | cons next rest =>
      have hrest := ih (by simp) fun other hmem => h other (List.mem_cons_of_mem _ hmem)
      rw [join, List.append_assoc, List.singleton_append, splitOn_append, hpiece, hrest,
        List.singleton_append]
      simp

end Text

namespace Path

open DesignTokens.FileTree

/-- Trimming leaves a front part of the pieces. -/
theorem trimVoid_append (pieces : List (List Char)) : ∃ rest, pieces = trimVoid pieces ++ rest := by
  obtain ⟨rest, hrest⟩ := List.rdropWhile_prefix isVoid (l := pieces)
  exact ⟨rest, hrest.symm⟩

/-- The last piece that is not trimmed names something. -/
theorem exists_last_of_trimVoid {pieces : List (List Char)} (h : trimVoid pieces ≠ []) :
    ∃ before last, trimVoid pieces = before ++ [last] ∧ last ≠ [] := by
  refine ⟨_, _, (List.dropLast_append_getLast h).symm, ?_⟩
  intro hempty
  have hlast := List.rdropWhile_last_not isVoid pieces h
  have hvoid : isVoid ((trimVoid pieces).getLast h) = true := by simp [hempty, isVoid]
  exact hlast hvoid

/-- The components of a path are its pieces that are not empty. -/
def named (pieces : List (List Char)) : List String :=
  (pieces.filter (!·.isEmpty)).map String.ofList

/-- The names of two runs of pieces are the names of the one and then those of the other. -/
theorem named_append (pieces more : List (List Char)) :
    named (pieces ++ more) = named pieces ++ named more := by
  simp [named]

/-- A path is absolute exactly if nothing stands before its first slash. -/
theorem isAbsolute_iff {path : String} {first : List Char} {rest : List (List Char)}
    (h : Text.splitOn '/' path.toList = first :: rest) :
    isAbsolute path = true ↔ first = [] ∧ rest ≠ [] := by
  have hslash : '/' ∉ first := Text.not_mem_of_mem_splitOn (h ▸ List.mem_cons_self)
  have hjoin := Text.join_splitOn '/' path.toList
  rw [h] at hjoin
  rw [isAbsolute, ← hjoin]
  cases first with
  | nil => cases rest <;> simp [Text.join]
  | cons c first =>
    have hc : c ≠ '/' := fun heq => hslash (heq ▸ List.mem_cons_self)
    cases rest <;> simp [Text.join, hc]

/-- What a parent keeps of the pieces behind the first one. A component is among the pieces that it
leaves out. -/
theorem exists_kept {tail : List (List Char)} (h : trimVoid tail ≠ []) :
    ∃ rest, tail = trimVoid (trimVoid tail).dropLast ++ rest ∧ named rest ≠ [] := by
  obtain ⟨before, last, hbefore, hlast⟩ := exists_last_of_trimVoid h
  obtain ⟨voids, hvoids⟩ := trimVoid_append tail
  obtain ⟨voids', hvoids'⟩ := trimVoid_append before
  refine ⟨voids' ++ [last] ++ voids, ?_, by simp [named, hlast]⟩
  rw [hbefore, List.dropLast_concat]
  calc
    tail = before ++ [last] ++ voids := by rw [← hbefore, ← hvoids]
    _ = trimVoid before ++ voids' ++ [last] ++ voids := by rw [← hvoids']
    _ = trimVoid before ++ (voids' ++ [last] ++ voids) := by simp only [List.append_assoc]

/-- A parent is empty, or the root, or made of the first pieces of its path. -/
theorem parent?_cases {path parent : String} {first : List Char} {tail : List (List Char)}
    (hsplit : Text.splitOn '/' path.toList = first :: tail) (h : parent? path = some parent) :
    (first ≠ [] ∧ parent = "") ∨
      ∃ kept rest, tail = kept ++ rest ∧ named rest ≠ [] ∧
        ((first = [] ∧ kept = [] ∧ parent = "/") ∨
          (¬ (first = [] ∧ kept = []) ∧
            parent = String.ofList (Text.join ['/'] (first :: kept)))) := by
  simp only [parent?, hsplit] at h
  cases htrim : trimVoid tail with
  | nil =>
    cases first with
    | nil => simp [htrim] at h
    | cons c first => exact Or.inl ⟨by simp, by simpa [htrim] using h.symm⟩
  | cons piece pieces =>
    obtain ⟨rest, htail, hrest⟩ := exists_kept (show trimVoid tail ≠ [] by simp [htrim])
    rw [htrim] at htail
    refine Or.inr ⟨_, rest, htail, hrest, ?_⟩
    simp only [htrim] at h
    cases hkept : trimVoid (piece :: pieces).dropLast with
    | nil =>
      cases first with
      | nil => exact Or.inl ⟨rfl, rfl, by simpa [hkept] using h.symm⟩
      | cons c first => exact Or.inr ⟨by simp, by simpa [hkept] using h.symm⟩
    | cons next kept => exact Or.inr ⟨by simp, by simpa [hkept] using h.symm⟩

/-- A parent is spelled with the first components of its path, and starts where the path does. -/
theorem components_parent? {path parent : String} (h : parent? path = some parent) :
    ∃ rest, rest ≠ [] ∧ components path = components parent ++ rest ∧
      isAbsolute parent = isAbsolute path := by
  have hcomponents (text : String) : components text = named (Text.splitOn '/' text.toList) := rfl
  cases hsplit : Text.splitOn '/' path.toList with
  | nil => exact absurd hsplit (Text.splitOn_ne_nil _ _)
  | cons first tail =>
    have habsolute := isAbsolute_iff hsplit
    rcases parent?_cases hsplit h with ⟨hfirst, rfl⟩ | ⟨kept, rest, rfl, hrest, hkept⟩
    · -- the path is its only component
      have hfalse : isAbsolute path = false := by
        simpa [hfirst] using habsolute
      refine ⟨components path, by simp [hcomponents, hsplit, named, hfirst], rfl, ?_⟩
      rw [hfalse]
      rfl
    have hpath : components path = named (first :: kept) ++ named rest := by
      rw [hcomponents, hsplit, ← named_append, List.cons_append]
    refine ⟨named rest, hrest, ?_⟩
    have hne : rest ≠ [] := by
      rintro rfl
      exact hrest rfl
    -- the parent is the root, or it is spelled by the components that are kept
    rcases hkept with ⟨rfl, rfl, rfl⟩ | ⟨hroot, rfl⟩
    · have htrue : isAbsolute path = true := habsolute.2 ⟨rfl, by simpa using hne⟩
      rw [hpath, htrue]
      exact ⟨rfl, rfl⟩
    · have hparent : Text.splitOn '/' (String.ofList (Text.join ['/'] (first :: kept))).toList =
          first :: kept := by
        rw [String.toList_ofList]
        apply Text.splitOn_join (by simp)
        intro piece hpiece
        have hmem : piece ∈ Text.splitOn '/' path.toList := by
          rw [hsplit, ← List.cons_append]
          exact List.mem_append_left _ hpiece
        exact Text.not_mem_of_mem_splitOn hmem
      refine ⟨by rw [hpath, hcomponents, hparent], ?_⟩
      rw [Bool.eq_iff_iff, isAbsolute_iff hparent, habsolute]
      have hiff : first = [] → (kept ≠ [] ↔ kept ++ rest ≠ []) := by
        intro hfirst
        have hkept : kept ≠ [] := fun hempty => hroot ⟨hfirst, hempty⟩
        simp [hne, hkept]
      exact and_congr_right hiff

end Path

/-! ### Where a path leads as it is spelled -/

namespace FileTree

/-- Where names lead from a directory if nothing is a link. -/
def spelledFrom (directory : Location) : List String → Location
  | [] => directory
  | name :: rest =>
    if name = "." then spelledFrom directory rest
    else if name = ".." then spelledFrom directory.dropLast rest
    else spelledFrom (directory ++ [name]) rest

/-- Where a path leads if nothing is a link. -/
def spelled (current : Location) (path : String) : Location :=
  spelledFrom (start current path) (components path)

/-- A leading part of the path leads to the location: some of its components, but not all. -/
def Leading (current : Location) (path : String) (location : Location) : Prop :=
  ∃ first rest, rest ≠ [] ∧ components path = first ++ rest ∧
    location = spelledFrom (start current path) first

/-- Names are followed one after the other: those behind start where those before have led. -/
theorem spelledFrom_append (directory : Location) (names more : List String) :
    spelledFrom directory (names ++ more) = spelledFrom (spelledFrom directory names) more := by
  induction names generalizing directory with
  | nil => rfl
  | cons name names ih =>
    rw [List.cons_append, spelledFrom, spelledFrom]
    split
    · exact ih directory
    · split
      · exact ih _
      · exact ih _

/-- An ordinary name, which is neither a dot nor two, leads one level down. -/
theorem spelledFrom_ordinary {name : String} (h : Ordinary name) (directory : Location)
    (rest : List String) :
    spelledFrom directory (name :: rest) = spelledFrom (directory ++ [name]) rest := by
  rw [spelledFrom, if_neg h.notDot, if_neg h.notUp]

/-- Names that a file system can give lead down, one step each. -/
theorem spelledFrom_proper {names : List String} (h : ∀ name ∈ names, ProperName name)
    (directory : Location) : spelledFrom directory names = directory ++ names := by
  induction names generalizing directory with
  | nil => rw [spelledFrom, List.append_nil]
  | cons name names ih =>
    obtain ⟨hname, hnames⟩ := List.forall_mem_cons.1 h
    rw [spelledFrom, if_neg hname.notDot, if_neg hname.notUp, ih hnames, List.append_assoc,
      List.singleton_append]

/-- A slash at the end makes no difference. -/
theorem spelledFrom_steps (directory : Location) (path : String) :
    spelledFrom directory (steps path) = spelledFrom directory (components path) := by
  rw [steps, spelledFrom_append]
  split <;> rfl

/-- What lies on the way to the parent of a path lies on the way to the path. -/
theorem leading_of_parent? {current location : Location} {path parent : String}
    (hparent : Path.parent? path = some parent)
    (h : location = spelled current parent ∨ Leading current parent location) :
    Leading current path location := by
  obtain ⟨rest, hrest, hnames, habsolute⟩ := Path.components_parent? hparent
  have hstart : start current parent = start current path := by rw [start, start, habsolute]
  rcases h with rfl | ⟨first, later, -, hfirst, rfl⟩
  · exact ⟨components parent, rest, hrest, hnames, by rw [spelled, hstart]⟩
  · refine ⟨first, later ++ rest, by simp [hrest], ?_, by rw [hstart]⟩
    rw [hnames, hfirst, List.append_assoc]

/-! ### Paths that are spelled below a directory -/

/-- A name joined to a directory never gives the empty path. -/
theorem join_ne_empty {name : String} (directory : String) (h : name ≠ "") :
    Path.join directory name ≠ "" := by
  unfold Path.join
  split
  · exact h
  · split <;> simp [String.append_eq_empty_iff, h]

/-- The path is spelled like the directory with some names behind it. -/
structure Below (directory path : String) (names : List String) : Prop where
  components : components path = FileTree.components directory ++ names
  absolute : Path.isAbsolute path = Path.isAbsolute directory

/-- One more proper name leads from below a directory further down. Joining may have to put a
slash in between, and an absolute name would start over, which a proper one is not. -/
theorem Below.join {directory path name : String} {names : List String}
    (h : Below directory path names) (hname : ProperName name) :
    Below directory (Path.join path name) (names ++ [name]) := by
  by_cases hpath : path = ""
  · subst hpath
    -- nothing is put in front of the name
    have hjoin : Path.join "" name = name := by simp [Path.join]
    have hempty : FileTree.components "" = [] := rfl
    have hnil := h.components
    rw [hempty, eq_comm, List.append_eq_nil_iff] at hnil
    have hslash : Text.splitOn '/' name.toList = [name.toList] :=
      Text.splitOn_of_not_mem hname.noSlash
    have habsolute : Path.isAbsolute name = false := by
      have hhead : name.toList.head? ≠ some '/' := fun hfirst =>
        hname.noSlash (List.mem_of_head? hfirst)
      simpa [Path.isAbsolute] using hhead
    refine ⟨?_, ?_⟩
    · rw [hjoin, hnil.1, hnil.2, FileTree.components, hslash]
      simp [hname.notEmpty]
    · rw [hjoin, ← h.absolute, habsolute]
      rfl
  · refine ⟨?_, (isAbsolute_join hpath hname.noSlash).trans h.absolute⟩
    rw [components_join hpath hname.notEmpty hname.noSlash, h.components, List.append_assoc]

/-- A directory is below itself by no name at all. -/
theorem Below.self (directory : String) : Below directory directory [] :=
  ⟨by simp, rfl⟩

/-- A path below a directory is spelled by the directory and then the names. -/
theorem Below.spelled_eq {directory path : String} {names : List String}
    (h : Below directory path names) (current : Location) :
    spelled current path = spelledFrom (spelled current directory) names := by
  rw [spelled, spelled, h.components, spelledFrom_append, start, start, h.absolute]

/-- If the names are proper ones, the location is that of the directory followed by them. -/
theorem Below.spelled_append {directory path : String} {names : List String}
    (h : Below directory path names) (hnames : ∀ name ∈ names, ProperName name)
    (current : Location) : spelled current path = spelled current directory ++ names := by
  rw [h.spelled_eq, spelledFrom_proper hnames]

/-- Two names below a directory lead two steps down from it. -/
theorem spelled_join_join {first second : String} (hfirst : ProperName first)
    (hsecond : ProperName second) (current : Location) (directory : String) :
    spelled current (Path.join (Path.join directory first) second) =
      spelled current directory ++ [first, second] := by
  have hbelow := ((Below.self directory).join hfirst).join hsecond
  exact hbelow.spelled_append (by simp [hfirst, hsecond]) current

/-! ### Walks in trees without links -/

/-- The location of a place, whether anything stands there or not. -/
def Place.location : Place → Location
  | .found location _ => location
  | .free directory name => directory ++ [name]

/-- A name in a directory stands for the location that ends in it, whatever is there. -/
@[simp]
theorem location_placeAt (tree : FileTree) (directory : Location) (name : String) :
    (tree.placeAt directory name).location = directory ++ [name] := by
  rw [placeAt]
  split <;> rfl

/-- Without links a walk ends where its names say. The induction is on the walk: of its steps, only
those that meet a link could leave the names, and there is none to be met. -/
theorem Leads.location_eq {tree : FileTree} (hlinkless : tree.Linkless) {last : Bool}
    {links : Nat} {directory : Location} {names : List String} {place : Place}
    (h : Leads tree last links directory names place) :
    place.location = spelledFrom directory names := by
  induction h with
  | here => rfl
  | dot _ ih => rw [ih, spelledFrom, if_pos rfl]
  | up _ ih => rw [ih, spelledFrom, if_neg (by decide), if_pos rfl]
  | down hname _ _ ih => rw [ih, spelledFrom_ordinary hname]
  | final hname => rw [location_placeAt, spelledFrom_ordinary hname, spelledFrom]
  | stay _ _ hnode => exact absurd hnode (hlinkless _ _)
  | follow _ _ hnode => exact absurd hnode (hlinkless _ _)

variable {tree new : FileTree} {path : String}

/-- A path leads to the location that it spells. -/
theorem location_of_place (hlinkless : tree.Linkless) {last : Bool} {place : Place}
    (h : tree.place last path = .ok place) : place.location = spelled tree.current path := by
  obtain ⟨-, hleads⟩ := place_eq_ok_iff.1 h
  rw [hleads.location_eq hlinkless, spelledFrom_steps, spelled]

/-- A path leads to the file at the location that it spells. -/
theorem location_of_fileAt? (hlinkless : tree.Linkless) {location : Location}
    (h : tree.fileAt? path = some location) : location = spelled tree.current path := by
  obtain ⟨content, hresolve⟩ := fileAt?_eq_some_iff.1 h
  exact location_of_place hlinkless (resolve_eq_ok_iff.1 hresolve)

/-- A path to a file two steps below a directory. The last step need not be known to be a name. -/
theorem location_of_join_join (hlinkless : tree.Linkless) {directory first second : String}
    (hfirst : ProperName first) (hsecond : '/' ∉ second.toList) {location : Location}
    (h : tree.fileAt? (Path.join (Path.join directory first) second) = some location) :
    location = spelled tree.current directory ++ [first, second] := by
  have hname := properName_of_fileAt? (join_ne_empty directory hfirst.notEmpty) hsecond h
  rw [location_of_fileAt? hlinkless h, spelled_join_join hfirst hname]

/-- Without links, a write goes to the location that its path spells, so that two paths are known to
be written at two places by their spelling alone. -/
theorem WritesAt.location_eq (hlinkless : tree.Linkless) {inside : Location} {name : String}
    (h : WritesAt tree path inside name) : inside ++ [name] = spelled tree.current path := by
  rw [← location_of_place hlinkless h.place_self, location_placeAt]

/-- A directory is made where its path says, and nothing was there. -/
theorem put_of_makeDirectory (hlinkless : tree.Linkless) (h : tree.makeDirectory path = .ok new) :
    spelled tree.current path ≠ [] ∧ tree.node? (spelled tree.current path) = none ∧
      new = tree.put (spelled tree.current path) .directory := by
  obtain ⟨inside, name, before, -, hnames, hleads, hname, hnode, rfl⟩ := makeDirectory_eq_ok h
  have hinside : inside = spelledFrom (start tree.current path) before := by
    have hlocation := hleads.location_eq hlinkless
    rwa [spelledFrom_append] at hlocation
  have hspelled : spelled tree.current path = inside ++ [name] := by
    rw [spelled, hnames, spelledFrom_append, ← hinside, spelledFrom_ordinary hname, spelledFrom]
  rw [hspelled]
  exact ⟨by simp, hnode, rfl⟩

end FileTree

end DesignTokens
