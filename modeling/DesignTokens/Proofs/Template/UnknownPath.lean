import DesignTokens.Proofs.Template.WellTold
import DesignTokens.Proofs.Template.Replacement
import DesignTokens.Template.Suggestion

/-!
# The path that was not found

The path that a variable was not found under is read back from the message of the fault. Before it
there may be messages of calls around the variable and words about indices. These are `Quiet`: the
words in front of a path do not start in them. So the path is read as it is shown
(`unknownPath?_message`), unless a path in the message holds the character that paths stand between.
-/

set_option autoImplicit false

namespace DesignTokens

open Template

/-! ### Reading a message -/

namespace Template

variable {piece text path rest : List Char}

/-- A place at which the words in front of a path do not start is passed. -/
theorem unknownPath?_cons_of_ne {c : Char}
    (h : ∀ after, c :: rest ≠ "Variable `".toList ++ after) :
    unknownPath? (c :: rest) = unknownPath? rest := by
  have hnone : Text.dropStart? "Variable `".toList (c :: rest) = none := by
    rw [Option.eq_none_iff_forall_ne_some]
    exact fun after hafter => h after (Text.dropStart?_eq_some_iff.1 hafter)
  rw [unknownPath?, hnone]
  rfl

/-- A path with the words around it is read. It ends at the first quote, so it must not have one
itself, and the empty path is never found. -/
theorem unknownPath?_found (hpath : pathQuote ∉ path) (hempty : path ≠ []) (rest : List Char) :
    unknownPath? ("Variable `".toList ++ (path ++ ("` not found".toList ++ rest))) = some path := by
  have hends : ∀ c ∈ path, decide (c ≠ pathQuote) = true := fun c hc =>
    decide_eq_true fun heq => hpath (heq ▸ hc)
  have htake : (path ++ ("` not found".toList ++ rest)).takeWhile (· ≠ pathQuote) = path := by
    rw [List.takeWhile_append_of_pos hends]
    exact List.append_nil path
  have hdrop : (path ++ ("` not found".toList ++ rest)).dropWhile (· ≠ pathQuote) =
      "` not found".toList ++ rest :=
    List.dropWhile_append_of_pos hends
  have hstart : "Variable `".toList ++ (path ++ ("` not found".toList ++ rest)) =
      'V' :: ("ariable `".toList ++ (path ++ ("` not found".toList ++ rest))) := rfl
  have hfinish : path.isEmpty = false := by simpa using hempty
  rw [hstart, unknownPath?, ← hstart, Text.dropStart?_eq_some_iff.2 rfl]
  simp only [Option.bind_eq_bind, Option.bind_some]
  rw [htake, hdrop, Text.dropStart?_eq_some_iff.2 rfl]
  simp only [hfinish]
  rfl

/-! ### Pieces without a path -/

/-- The words in front of a path do not start in the piece, whatever comes behind it. -/
def Quiet (piece : List Char) : Prop :=
  ∀ rest, unknownPath? (piece ++ rest) = unknownPath? rest

/-- Two pieces in which the headline does not start can be put together. No start can lie across the
seam, as its first letter occurs only once in it. -/
theorem Quiet.append {front back : List Char} (hfront : Quiet front) (hback : Quiet back) :
    Quiet (front ++ back) := by
  intro rest
  rw [List.append_assoc, hfront, hback]

/-- One more character, with which the words do not start. -/
theorem Quiet.cons {c : Char} (hpiece : Quiet piece)
    (hstart : ∀ rest after, c :: (piece ++ rest) ≠ "Variable `".toList ++ after) :
    Quiet (c :: piece) := by
  intro rest
  rw [List.cons_append, unknownPath?_cons_of_ne (hstart rest), hpiece rest]

/-- A piece without the first letter of the headline is quiet. -/
theorem quiet_of_not_mem (h : 'V' ∉ piece) : Quiet piece := by
  induction piece with
  | nil => exact fun _ => rfl
  | cons c piece ih =>
    obtain ⟨hc, hpiece⟩ := not_or.1 (List.mem_cons.not.1 h)
    exact (ih hpiece).cons fun rest after hafter => hc (List.cons.inj hafter).1.symm

/-- The words in front of a path hold the character that paths stand between, so they do not start
before a character that they do not have. -/
theorem quiet_concat {c : Char} (hpiece : pathQuote ∉ piece) (hc : c ∉ "Variable `".toList) :
    Quiet (piece ++ [c]) := by
  induction piece with
  | nil => exact quiet_of_not_mem (by rintro (_ | ⟨_, ⟨⟩⟩); exact hc (by decide))
  | cons d piece ih =>
    refine (ih fun hmem => hpiece (List.mem_cons_of_mem d hmem)).cons ?_
    intro rest after hafter
    have hstart := Text.dropStart?_eq_some_iff.2 hafter
    rw [List.append_assoc, ← List.cons_append, List.singleton_append,
      Text.dropStart?_append_cons hc, Option.map_eq_some_iff] at hstart
    obtain ⟨behind, hbehind, -⟩ := hstart
    rw [Text.dropStart?_eq_some_iff.1 hbehind] at hpiece
    exact hpiece (List.mem_append_left _ (by decide))

/-- The words in front of a path end with a blank and the character that paths stand between, so
they do not start in a word before this character. -/
theorem quiet_word (hpiece : ' ' ∉ piece) : Quiet (piece ++ [pathQuote]) := by
  induction piece with
  | nil => exact quiet_of_not_mem (by decide)
  | cons d piece ih =>
    refine (ih fun hmem => hpiece (List.mem_cons_of_mem d hmem)).cons ?_
    intro rest after hafter
    rw [List.append_assoc, ← List.cons_append, List.singleton_append] at hafter
    have hafter : (d :: piece) ++ pathQuote :: rest =
        "Variable".toList ++ ' ' :: pathQuote :: after := hafter
    -- either text is a beginning of the other, and what stands behind it does not fit
    rcases List.append_eq_append_iff.1 hafter with
      ⟨behind, hword, hquote⟩ | ⟨behind, hword, hblank⟩
    · cases behind with
      | nil => exact absurd (List.cons.inj hquote).1 (by decide)
      | cons c behind =>
        have hmem : pathQuote ∈ "Variable".toList := by
          rw [hword, (List.cons.inj hquote).1]
          exact List.mem_append_right _ List.mem_cons_self
        exact absurd hmem (by decide)
    · cases behind with
      | nil => exact absurd (List.cons.inj hblank).1 (by decide)
      | cons c behind =>
        rw [hword, (List.cons.inj hblank).1] at hpiece
        exact hpiece (List.mem_append_right _ List.mem_cons_self)

/-- Nor do they start before such a character and a blank. -/
theorem quiet_behind (c : Char) (hpiece : pathQuote ∉ piece) (hc : c ∉ "Variable `".toList) :
    Quiet (piece ++ c :: [' ']) := by
  have hblank : Quiet [' '] := quiet_of_not_mem (by decide)
  have h := (quiet_concat hpiece hc).append hblank
  rwa [List.append_assoc] at h

/-- A message without the character that paths stand between, and the arrow behind it. -/
theorem quiet_arrow (hpiece : pathQuote ∉ piece) : Quiet (piece ++ "\n  -> ".toList) := by
  have harrow : pathQuote ∉ piece ++ "\n  -".toList := fun hmem =>
    (List.mem_append.1 hmem).elim hpiece (by decide)
  have h := quiet_behind '>' harrow (by decide)
  rwa [List.append_assoc] at h

/-- The text says that a variable was not found under the path; under the premise, nothing before
reads as another path. -/
def ShowsMissing (path : List Char) (premise : Prop) (text : List Char) : Prop :=
  ∃ front rest, text = front ++
      ("Variable `".toList ++ (path ++ ("` not found".toList ++ rest))) ∧
    (premise → Quiet front)

namespace ShowsMissing

variable {premise premise' : Prop}

/-- A quiet piece in front does not change which path a text shows as missing. -/
theorem behind (h : ShowsMissing path premise text) (hpiece : premise' → Quiet piece ∧ premise) :
    ShowsMissing path premise' (piece ++ text) := by
  obtain ⟨front, rest, rfl, hfront⟩ := h
  refine ⟨piece ++ front, rest, by simp only [List.append_assoc], fun hpremise => ?_⟩
  exact (hpiece hpremise).1.append (hfront (hpiece hpremise).2)

/-- The program reads off such a text the path that was shown, if the path is not empty and has no
quote in it. -/
theorem unknownPath?_eq (h : ShowsMissing path premise text) (hpremise : premise)
    (hpath : pathQuote ∉ path) (hempty : path ≠ []) : unknownPath? text = some path := by
  obtain ⟨front, rest, rfl, hfront⟩ := h
  rw [hfront hpremise, unknownPath?_found hpath hempty]

end ShowsMissing

/-- A name has no character that names cannot have. -/
theorem IsName.not_mem {name : String} (h : IsName name) {c : Char}
    (hc : Reader.isNameChar c = false) : c ∉ name.toList :=
  fun hmem => Bool.false_ne_true (hc.symm.trans (h c hmem))

end Template

namespace TemplateFault

/-! ### Faults of unknown variables -/

/-- The path of the variable that the headline of a fault says was not found. -/
def headlinePath? : TemplateFault → Option String
  | .unknownVariable path | .unknownElement path _ => some path
  | .unknownIndex _ cause | .calculationFailed cause | .inLoop cause => cause.headlinePath?
  | _ => none

/-- The path of the variable that a fault says was not found. -/
def missingPath? : TemplateFault → Option String
  | .filterFailed _ cause | .testFailed _ cause | .functionFailed _ cause | .inSnippet _ _ cause
  | .inLoop cause => cause.missingPath?
  | fault => fault.headlinePath?

/-- The paths in the message of a fault do not hold the character that paths stand between, and
something is left of them when they are shown. -/
def Legible : TemplateFault → Prop
  | .unknownVariable path | .unknownElement path _ =>
    pathQuote ∉ path.toList ∧ disguise path.toList ≠ []
  | .unknownIndex path cause => pathQuote ∉ path.toList ∧ cause.Legible
  | .calculationFailed cause | .filterFailed _ cause | .testFailed _ cause
  | .functionFailed _ cause | .inSnippet _ _ cause | .inLoop cause => cause.Legible
  | _ => True

variable {fault : TemplateFault} {path : String}

/-! ### Shown text -/

section
variable {text : List Char} {c : Char}

/-- A text is shown piece by piece, if what stands between is in no text that gives the name of the
template away. -/
theorem disguise_append_cons (hc : ∀ pair ∈ disguises, c ∉ pair.1) (front back : List Char) :
    disguise (front ++ c :: back) = disguise front ++ c :: disguise back := by
  have hempty : ∀ pair ∈ disguises, pair.1 ≠ [] := by decide
  exact Text.replaceAll_append_cons (fun pair hpair => ⟨hempty pair hpair, hc pair hpair⟩) _ _

/-- A text without quotes is shown as it is. -/
theorem disguise_of_not_mem (h : '\'' ∉ text) : disguise text = text :=
  Text.replaceAll_of_not_mem (c := '\'') (by decide) h

/-- The disguise of markup brings in no character that it does not replace one with. -/
theorem not_mem_disguise (hc : ∀ pair ∈ disguises, c ∉ pair.2) (h : c ∉ text) :
    c ∉ disguise text :=
  Text.not_mem_replaceAll hc h

/-- A message is shown with its markup disguised and its ends trimmed. -/
theorem toList_presented (message : String) :
    (presented message).toList = Text.trim (disguise message.toList) :=
  String.toList_ofList

/-- A message without quotes and without blanks at its ends is shown as it is. -/
theorem toList_presented_of_not_mem {message : String} (first last : Char)
    (hplain : '\'' ∉ message.toList) (hfirst : Text.isBlank first = false)
    (hlast : Text.isBlank last = false) (hstart : message.toList.head? = some first)
    (hend : message.toList.getLast? = some last) :
    (presented message).toList = message.toList := by
  obtain ⟨rest, hrest⟩ := List.head?_eq_some_iff.1 hstart
  obtain ⟨front, hfront⟩ := List.getLast?_eq_some_iff.1 hend
  have hleft : Text.trimLeft message.toList = message.toList := by
    rw [hrest, Text.trimLeft_cons hfirst]
  have hright : Text.trimRight message.toList = message.toList := by
    rw [hfront]
    exact Text.trimRight_append_cons hlast front []
  rw [toList_presented, disguise_of_not_mem hplain, Text.trim, hleft, hright]

end

/-- The headline of an unknown variable: the words around its path, behind what the headline says
of indices. -/
theorem headline_split (h : fault.headlinePath? = some path) :
    ∃ front rest, fault.headline.toList = front ++ ("Variable `".toList ++ (path.toList ++
        ("` not found in context".toList ++ rest))) ∧
      (front = [] ∨ ∃ words, front = 'V' :: (words ++ [':', ' '])) ∧
      (fault.Legible → pathQuote ∉ front) := by
  induction fault using headlinePath?.induct with
  | case1 path =>
    rw [headlinePath?] at h
    cases h
    have hheadline : (unknownVariable path).headline =
        "Variable `" ++ path ++ "` not found in context" := rfl
    refine ⟨[], [], ?_, .inl rfl, fun _ => List.not_mem_nil⟩
    simp only [hheadline, String.toList_append, List.append_assoc, List.nil_append, List.append_nil]
  | case2 path evaluated =>
    rw [headlinePath?] at h
    cases h
    have hheadline : (unknownElement path evaluated).headline =
        "Variable `" ++ path ++ "` not found in context : the evaluated version was `" ++
          evaluated ++ "`. Maybe the index is out of bounds?" := rfl
    have hwords : "` not found in context : the evaluated version was `".toList =
        "` not found in context".toList ++ " : the evaluated version was `".toList := rfl
    refine ⟨[], " : the evaluated version was `".toList ++
      (evaluated.toList ++ "`. Maybe the index is out of bounds?".toList), ?_, .inl rfl,
      fun _ => List.not_mem_nil⟩
    simp only [hheadline, String.toList_append, List.append_assoc, List.nil_append, hwords]
  | case3 outer cause ih =>
    rw [headlinePath?] at h
    obtain ⟨front, rest, hcause, hfront, hlegible⟩ := ih h
    have hheadline : (unknownIndex outer cause).headline =
        "Variable " ++ outer ++ " can not be evaluated because: " ++ cause.headline := rfl
    have hwords : " can not be evaluated because: ".toList =
        " can not be evaluated because".toList ++ [':', ' '] := rfl
    -- what is said of the index comes before what its own cause says of others
    refine ⟨"Variable ".toList ++ (outer.toList ++ (" can not be evaluated because: ".toList ++
      front)), rest, ?_, .inr ?_, ?_⟩
    · simp only [hheadline, String.toList_append, List.append_assoc, hcause]
    · have hstart : "Variable ".toList = 'V' :: "ariable ".toList := rfl
      rw [hstart, hwords]
      rcases hfront with rfl | ⟨words, rfl⟩
      · exact ⟨"ariable ".toList ++ (outer.toList ++ " can not be evaluated because".toList), by
          simp only [List.cons_append, List.append_assoc, List.append_nil]⟩
      · exact ⟨"ariable ".toList ++ (outer.toList ++ (" can not be evaluated because".toList ++
          (':' :: ' ' :: 'V' :: words))), by
          simp only [List.cons_append, List.append_assoc, List.nil_append]⟩
    · rintro ⟨houter, hcause⟩
      simp only [List.mem_append, not_or]
      exact ⟨by decide, houter, by decide, hlegible hcause⟩
  | case4 cause ih =>
    rw [headlinePath?] at h
    exact ih h
  | case5 cause ih =>
    rw [headlinePath?] at h
    exact ih h
  | case6 fault =>
    rw [headlinePath?] at h
    · cases h
    all_goals assumption

/-- The words around a path are shown as they are, and what they part is shown piece by piece. -/
theorem disguise_found (front path rest : List Char) :
    disguise (front ++ ("Variable `".toList ++
        (path ++ ("` not found in context".toList ++ rest)))) =
      disguise front ++ ("Variable `".toList ++ (disguise path ++ ("` not found".toList ++
        (" in ".toList ++ 'c' :: disguise ("ontext".toList ++ rest))))) := by
  have hquote : ∀ pair ∈ disguises, pathQuote ∉ pair.1 := by decide
  have hbefore : disguise "ariable ".toList = "ariable ".toList :=
    disguise_of_not_mem (by decide)
  have hbehind : disguise " not found in ".toList = " not found in ".toList :=
    disguise_of_not_mem (by decide)
  -- four characters of these words are in no text that is replaced
  change disguise (front ++ 'V' :: ("ariable ".toList ++ pathQuote :: (path ++ pathQuote ::
    (" not found in ".toList ++ 'c' :: ("ontext".toList ++ rest))))) = _
  rw [disguise_append_cons (by decide), disguise_append_cons hquote, disguise_append_cons hquote,
    disguise_append_cons (by decide), hbefore, hbehind]
  rfl

/-- The shown headline of an unknown variable. Markup is disguised in it, in the path and around it,
and trimming leaves the quotes in place. -/
theorem showsMissing_presented (h : fault.headlinePath? = some path) :
    ShowsMissing (disguise path.toList) fault.Legible (presented fault.headline).toList := by
  obtain ⟨front, rest, hheadline, hfront, hlegible⟩ := headline_split h
  refine ⟨disguise front,
    " in ".toList ++ 'c' :: Text.trimRight (disguise ("ontext".toList ++ rest)), ?_, fun h => ?_⟩
  · have hstart (tail : List Char) :
        Text.trimLeft (disguise front ++ ("Variable `".toList ++ tail)) =
          disguise front ++ ("Variable `".toList ++ tail) := by
      rcases hfront with rfl | ⟨words, rfl⟩
      · exact Text.trimLeft_cons (by decide) _
      · have hwords := disguise_append_cons (c := 'V') (by decide) [] (words ++ [':', ' '])
        rw [List.nil_append] at hwords
        rw [hwords]
        exact Text.trimLeft_cons (by decide) _
    -- nothing is trimmed in front of the path, and behind it nothing before the last of these words
    rw [toList_presented, hheadline, disguise_found, Text.trim, hstart]
    have hend := Text.trimRight_append_cons (c := 'c') (by decide)
      (disguise front ++ ("Variable `".toList ++ (disguise path.toList ++ ("` not found".toList ++
        " in ".toList)))) (disguise ("ontext".toList ++ rest))
    simpa only [List.append_assoc] using hend
  · have hquote : ∀ pair ∈ disguises, pathQuote ∉ pair.2 := by decide
    rcases hfront with rfl | ⟨words, rfl⟩
    · exact quiet_of_not_mem (by decide)
    · have hwords : pathQuote ∉ 'V' :: words := fun hmem =>
        hlegible h (List.mem_append_left [':', ' '] hmem)
      have hblank : disguise [' '] = [' '] := disguise_of_not_mem (by decide)
      change Quiet (disguise (('V' :: words) ++ ':' :: [' ']))
      rw [disguise_append_cons (by decide), hblank]
      exact quiet_behind ':' (not_mem_disguise hquote hwords) (by decide)

/-! ### Messages -/

/-- Every fault has a message. -/
theorem messages_ne_nil (fault : TemplateFault) : fault.messages ≠ [] := by
  induction fault using messages.induct with
  | case1 name cause ih | case2 name cause ih | case3 name cause ih | case4 complaint
  | case5 space name cause ih =>
    rw [messages]
    exact List.cons_ne_nil _ _
  | case6 cause ih =>
    rw [messages]
    exact ih
  | case7 fault =>
    rw [messages]
    · exact List.cons_ne_nil _ _
    all_goals assumption

/-- A headline without quotes and without blanks at its ends is the whole message, if the fault has
no causes to tell. -/
theorem message_of_not_mem (first last : Char) (hmessages : fault.messages = [fault.headline])
    (hplain : '\'' ∉ fault.headline.toList) (hfirst : Text.isBlank first = false)
    (hlast : Text.isBlank last = false) (hstart : fault.headline.toList.head? = some first)
    (hend : fault.headline.toList.getLast? = some last) : fault.message = fault.headline := by
  rw [message, hmessages, List.map_singleton, String.intercalate_singleton, ← String.toList_inj]
  exact toList_presented_of_not_mem first last hplain hfirst hlast hstart hend

/-- A fault that is told before its cause. -/
theorem message_of_cons {cause : TemplateFault} {first : String}
    (h : fault.messages = first :: cause.messages) :
    fault.message = presented first ++ "\n  -> " ++ cause.message := by
  obtain ⟨second, rest, hcause⟩ := List.exists_cons_of_ne_nil cause.messages_ne_nil
  rw [message, message, h, hcause]
  exact String.intercalate_cons_cons

/-- What a cause shows is shown behind what is told before it. -/
theorem showsMissing_of_cons {cause : TemplateFault} {first : String} {path : List Char}
    {premise premise' : Prop} (h : ShowsMissing path premise cause.message.toList)
    (hmessages : fault.messages = first :: cause.messages)
    (hfirst : premise' → Quiet ((presented first).toList ++ "\n  -> ".toList) ∧ premise) :
    ShowsMissing path premise' fault.message.toList := by
  rw [message_of_cons hmessages, String.toList_append, String.toList_append]
  exact h.behind hfirst

/-- What a call of a filter, a test or a function is told with. -/
theorem quiet_call {name word : String} (hname : IsName name) (hword : pathQuote ∉ word.toList) :
    Quiet ((presented (word ++ name ++ "' failed")).toList ++ "\n  -> ".toList) := by
  refine quiet_arrow ?_
  rw [toList_presented]
  refine Text.not_mem_trim (not_mem_disguise (by decide) ?_)
  simp only [String.toList_append, List.mem_append, not_or]
  exact ⟨⟨hword, hname.not_mem (by decide)⟩, by decide⟩

/-- What a call of a snippet is told with is quiet: the names in it are names, so the headline of an
unknown variable cannot start in them. -/
theorem quiet_snippet {space name : String} (hspace : IsName space) (hname : IsName name) :
    Quiet ((presented ("Template rendering failed: error while rendering macro `" ++ space ++
      "::" ++ name ++ "`")).toList ++ "\n  -> ".toList) := by
  have htext : ("Template rendering failed: error while rendering macro `" ++ space ++ "::" ++
      name ++ "`").toList = "Template rendering failed: error while rendering macro `".toList ++
        ((space.toList ++ [':']) ++ ((':' :: name.toList) ++ [pathQuote])) := by
    simp only [String.toList_append, List.append_assoc]
    rfl
  generalize "Template rendering failed: error while rendering macro `" ++ space ++ "::" ++ name ++
    "`" = message at htext ⊢
  -- names hold no quotes, so the message is presented as it is
  have hplain : '\'' ∉ message.toList := by
    rw [htext]
    simp only [List.mem_append, List.mem_cons, not_or]
    exact ⟨by decide, ⟨hspace.not_mem (by decide), by decide, by decide⟩,
      ⟨by decide, hname.not_mem (by decide)⟩, by decide, by decide⟩
  have hstart : message.toList.head? = some 'T' := by
    rw [htext]
    rfl
  have hend : message.toList.getLast? = some pathQuote := by
    rw [htext, ← List.append_assoc, ← List.append_assoc, List.getLast?_concat]
  have hshown : (presented message).toList = message.toList :=
    toList_presented_of_not_mem 'T' pathQuote hplain (by decide) (by decide) hstart hend
  have hwords : Quiet "Template rendering failed: error while rendering macro `".toList :=
    quiet_of_not_mem (by decide)
  have hspace' : Quiet (space.toList ++ [':']) :=
    quiet_concat (hspace.not_mem (by decide)) (by decide)
  have hname' : Quiet ((':' :: name.toList) ++ [pathQuote]) := by
    refine quiet_word fun hmem => ?_
    exact (List.mem_cons.1 hmem).elim (by decide) (hname.not_mem (by decide))
  have harrow : Quiet "\n  -> ".toList := quiet_of_not_mem (by decide)
  rw [hshown, htext]
  exact (hwords.append (hspace'.append hname')).append harrow

/-- The message of an unknown variable shows its path. The messages around the headline name
templates and snippets, all of them quiet; the cases follow the places where a fault can lie. -/
theorem showsMissing_message (h : fault.missingPath? = some path) :
    ShowsMissing (disguise path.toList) (fault.WellNamed ∧ fault.Legible)
      fault.message.toList := by
  induction fault using missingPath?.induct with
  | case1 name cause ih | case2 name cause ih | case3 name cause ih =>
    rw [missingPath?] at h
    refine showsMissing_of_cons (ih h) rfl ?_
    rintro ⟨⟨hname, hcause⟩, hlegible⟩
    exact ⟨quiet_call hname (by decide), hcause, hlegible⟩
  | case4 space name cause ih =>
    rw [missingPath?] at h
    refine showsMissing_of_cons (ih h) rfl ?_
    rintro ⟨⟨hspace, hname, hcause⟩, hlegible⟩
    exact ⟨quiet_snippet hspace hname, hcause, hlegible⟩
  | case5 cause ih =>
    rw [missingPath?] at h
    exact ih h
  -- the innermost fault shows the path in its own headline
  | case6 fault =>
    have htold (complaint : Complaint) (heq : fault = .told complaint) : False := by
      subst heq
      cases h
    have hmessage : fault.message = presented fault.headline := by
      rw [message, messages]
      · exact String.intercalate_singleton
      all_goals assumption
    rw [missingPath?] at h
    · rw [hmessage]
      obtain ⟨front, rest, htext, hfront⟩ := showsMissing_presented h
      exact ⟨front, rest, htext, fun hfault => hfront hfault.2⟩
    all_goals assumption

/-- The path in the headline of a legible fault can be told from the text around it. -/
theorem legible_headlinePath (h : fault.headlinePath? = some path) (hlegible : fault.Legible) :
    pathQuote ∉ path.toList ∧ disguise path.toList ≠ [] := by
  induction fault using headlinePath?.induct with
  | case1 path | case2 path evaluated =>
    rw [headlinePath?] at h
    cases h
    exact hlegible
  | case3 outer cause ih =>
    rw [headlinePath?] at h
    exact ih h hlegible.2
  | case4 cause ih | case5 cause ih =>
    rw [headlinePath?] at h
    exact ih h hlegible
  | case6 fault =>
    rw [headlinePath?] at h
    · cases h
    all_goals assumption

/-- The same for the path that a fault gives as missing. -/
theorem legible_missingPath (h : fault.missingPath? = some path) (hlegible : fault.Legible) :
    pathQuote ∉ path.toList ∧ disguise path.toList ≠ [] := by
  induction fault using missingPath?.induct with
  | case1 name cause ih | case2 name cause ih | case3 name cause ih | case4 space name cause ih
  | case5 cause ih =>
    rw [missingPath?] at h
    exact ih h hlegible
  | case6 fault =>
    rw [missingPath?] at h
    · exact legible_headlinePath h hlegible
    all_goals assumption

/-- The path that a variable was not found under is read back from the message as it is shown.
Everything in front of the headline is quiet, so the program finds the right place, and the path
ends at the first quote behind it. -/
theorem unknownPath?_message (h : fault.missingPath? = some path) (hnamed : fault.WellNamed)
    (hlegible : fault.Legible) :
    unknownPath? fault.message.toList = some (disguise path.toList) := by
  obtain ⟨hpath, hempty⟩ := legible_missingPath h hlegible
  exact (showsMissing_message h).unknownPath?_eq ⟨hnamed, hlegible⟩
    (not_mem_disguise (by decide) hpath) hempty

end TemplateFault

end DesignTokens
