import DesignTokens.Template.Parse

/-!
# Names of snippets

The snippets of a template that could be read are called by names, that is by texts of letters,
digits and underscores (`isName_of_parse`). A reader `Yields` a property if all that it reads has
it; the readers of the grammar are taken apart by the way in which they are put together.
-/

set_option autoImplicit false

namespace DesignTokens.Template

/-! ### Readers -/

namespace Reader

variable {α β : Type} {P : α → Prop} {Q : β → Prop}

/-- All that the reader reads has the property. -/
def Yields (reader : Reader α) (P : α → Prop) : Prop :=
  ∀ text a rest, reader.run text = some (a, rest) → P a

/-- A reader that takes nothing yields the value it was given. -/
theorem yields_pure {a : α} (h : P a) : Yields (pure a) P := by
  intro text b rest hrun
  cases hrun
  exact h

/-- A reader that always fails yields nothing, so all it yields has any property. -/
theorem yields_failure : Yields (failure : Reader α) P := by
  intro text a rest hrun
  cases hrun

/-- In a sequence, the second reader can rely on what is known of the first one's value. -/
theorem Yields.bind {reader : Reader α} {next : α → Reader β} (hreader : Yields reader P)
    (hnext : ∀ a, P a → Yields (next a) Q) : Yields (reader >>= next) Q := by
  intro text b rest hrun
  rw [StateT.run_bind] at hrun
  obtain ⟨⟨a, between⟩, hread, hrun⟩ := Option.bind_eq_some_iff.1 hrun
  exact hnext a (hreader text a between hread) between b rest hrun

/-- The last step alone matters, if it does whatever came before. -/
theorem yields_bind {reader : Reader α} {next : α → Reader β} (h : ∀ a, Yields (next a) Q) :
    Yields (reader >>= next) Q := by
  have hreader : Yields reader fun _ => True := fun _ _ _ _ => trivial
  exact hreader.bind fun a _ => h a

/-- Of two alternatives, either may have been taken. -/
theorem yields_orElse {reader other : Reader α} (hreader : Yields reader P)
    (hother : Yields other P) : Yields (reader <|> other) P := by
  intro text a rest hrun
  have hrun : (reader.run text <|> other.run text) = some (a, rest) := hrun
  rcases hread : reader.run text with _ | read
  · rw [hread] at hrun
    exact hother text a rest hrun
  · rw [hread] at hrun
    cases hrun
    exact hreader text a rest hread

/-- A changed value has a property if the value before has the one that the change brings about. -/
theorem Yields.map {reader : Reader α} {change : α → β}
    (h : Yields reader fun a => Q (change a)) : Yields (change <$> reader) Q := by
  rw [map_eq_pure_bind]
  exact h.bind fun a ha => yields_pure ha

/-- Repetition up to a limit yields items that all have the property. -/
theorem Yields.manyUpTo {reader : Reader α} (h : Yields reader P) (limit : Nat) :
    Yields (reader.manyUpTo limit) fun items => ∀ a ∈ items, P a := by
  induction limit with
  | zero => exact yields_pure (List.forall_mem_nil _)
  | succ limit ih =>
    refine yields_orElse ?_ (yields_pure (List.forall_mem_nil _))
    exact h.bind fun a ha => ih.bind fun items hitems =>
      yields_pure (List.forall_mem_cons.2 ⟨ha, hitems⟩)

/-- So does repetition to the end of the text. -/
theorem Yields.many {reader : Reader α} (h : Yields reader P) :
    Yields (Reader.many reader) fun items => ∀ a ∈ items, P a :=
  yields_bind fun text => h.manyUpTo text.length

/-- The characters that are taken as long as they belong to a kind all belong to it. -/
theorem yields_takeWhile (belongs : Char → Bool) :
    Yields (Reader.takeWhile belongs) fun taken => ∀ c ∈ taken, belongs c = true := by
  intro text taken rest hrun
  cases hrun
  exact List.all_eq_true.1 List.all_takeWhile

/-- The rest of a name consists of letters, digits and underscores. -/
theorem yields_nameChars : Yields nameChars fun name => ∀ c ∈ name, isNameChar c = true := by
  have hsome : Yields (takeSome isNameChar) fun taken => ∀ c ∈ taken, isNameChar c = true := by
    refine (yields_takeWhile isNameChar).bind fun taken htaken => ?_
    split
    · exact yields_failure
    · exact yields_pure htaken
  refine hsome.bind fun taken htaken => ?_
  split
  · exact yields_pure htaken
  · exact yields_failure

/-- What is read as a name is one. -/
theorem yields_name : Yields name IsName := by
  refine yields_bind fun _ => yields_nameChars.bind fun taken htaken => yields_pure ?_
  rwa [IsName, String.toList_ofList]

end Reader

/-! ### Elements -/

/-- A node that is a snippet has a name. -/
def Node.Named : Node → Prop
  | .snippet name _ _ => IsName name
  | _ => True

/-- The node of an element. -/
def Element.construct? : Element → Option Node
  | .node _ construct | .passive construct => some construct
  | .text _ | .comment _ => none

/-- An element that is a snippet has a name. -/
def Element.Named (element : Element) : Prop :=
  ∀ node ∈ element.construct?, node.Named

/-- An element that is a node has names exactly where the node has. -/
theorem Element.named_node {trim : Trim} {node : Node} (h : node.Named) :
    (Element.node trim node).Named := by
  intro found hfound
  cases hfound
  exact h

/-- Trimming a piece of text leaves a text. -/
theorem Element.mem_trimmed {start finish : Bool} {content : List Char} {node : Node}
    (h : node ∈ trimmed start finish content) : ∃ text, node = .text text := by
  simp only [trimmed, List.mem_ite_nil_left, List.mem_singleton] at h
  exact ⟨_, h.2⟩

/-- Trimming adds texts to the nodes of the elements and nothing else. So the snippets of a template
are those that its elements hold. -/
theorem Element.mem_assemble {start finish : Bool} {elements : List Element} {node : Node}
    (h : node ∈ assemble start finish elements) :
    (∃ content, node = .text content) ∨ ∃ element ∈ elements, node ∈ element.construct? := by
  induction elements generalizing start with
  | nil => cases h
  | cons first rest ih =>
    have hlater {start : Bool} (h : node ∈ assemble start finish rest) :
        (∃ content, node = .text content) ∨
          ∃ element ∈ first :: rest, node ∈ element.construct? := by
      refine (ih h).imp_right ?_
      rintro ⟨element, helement, hnode⟩
      exact ⟨element, List.mem_cons_of_mem _ helement, hnode⟩
    cases first with
    | text content =>
      rcases List.mem_append.1 h with h | h
      · exact .inl (mem_trimmed h)
      · exact hlater h
    | comment trim => exact hlater h
    | node trim construct | passive construct =>
      rcases List.mem_cons.1 h with rfl | h
      · exact .inr ⟨_, List.mem_cons_self, rfl⟩
      · exact hlater h

namespace Reading

open Reader

/-- What a reader ends with that returns a node other than a snippet. -/
theorem yields_node {trim : Trim} {node : Node} (h : node.Named) :
    Yields (pure (.node trim node) : Reader Element) Element.Named :=
  yields_pure (Element.named_node h)

/-- A reader that is only allowed in places yields what it yields anywhere. -/
theorem yields_only {allowed : Bool} {reader : Reader Element}
    (h : Yields reader Element.Named) : Yields (only allowed reader) Element.Named := by
  unfold only
  split
  · exact h
  · exact yields_failure

/-- All names in a snippet are ones that a template can write, whatever stands in its body. -/
theorem yields_snippet (body : Reader (List Element)) : Yields (snippet body) Element.Named := by
  have hcontent (rest : Reader (List (String × Option Value))) :
      Yields (do
        head "macro"
        let name ← name
        return (name, ← rest)) fun content => IsName content.1 :=
    yields_bind fun _ => yields_name.bind fun _ hname => yields_bind fun _ => yields_pure hname
  have htag : Yields (tag do
      head "macro"
      let name ← name
      return (name, ← parameters)) fun data => IsName data.2.1 :=
    yields_bind fun _ => yields_bind fun _ =>
      (hcontent parameters).bind fun _ hname => yields_bind fun _ => yields_pure hname
  exact htag.bind fun _ hname => yields_bind fun _ => yields_bind fun _ => yields_node hname

/-- Only the reader of snippets reads a snippet, and it reads a name for it. -/
theorem yields_element (inner : Inner) (bodies : Setting → Reader (List Element))
    (setting : Setting) : Yields (element inner bodies setting) Element.Named := by
  have hassignment (shared : Bool) : Yields (assignment inner shared) Element.Named :=
    yields_bind fun _ => yields_node trivial
  -- the alternatives stand in the order in which they are tried
  refine yields_orElse ?text <| yields_orElse (yields_only ?inherited) <|
    yields_orElse ?output <| yields_orElse ?comment <| yields_orElse ?inclusion <|
    yields_orElse (hassignment false) <| yields_orElse (hassignment true) <| yields_orElse ?raw <|
    yields_orElse ?conditional <| yields_orElse ?loop <| yields_orElse ?filtered <|
    yields_orElse (yields_only ?leave) <| yields_orElse (yields_only ?block) <|
    yields_only (yields_snippet _)
  case text =>
    refine yields_bind fun content => ?_
    split
    · exact yields_failure
    · exact yields_pure nofun
  case inherited =>
    refine yields_bind fun _ => yields_bind fun _ => yields_bind fun _ => yields_pure ?_
    intro node hnode
    cases hnode
    trivial
  case output =>
    exact yields_bind fun _ => yields_bind fun _ => yields_bind fun _ => yields_bind fun _ =>
      yields_node trivial
  case comment =>
    exact Yields.map fun text trim rest hrun => nofun
  case inclusion => exact yields_bind fun _ => yields_node trivial
  case raw =>
    exact yields_bind fun _ => yields_bind fun _ => yields_bind fun _ => yields_node trivial
  case conditional =>
    exact yields_bind fun _ => yields_bind fun _ => yields_bind fun _ => yields_bind fun _ =>
      yields_bind fun _ => yields_node trivial
  case loop =>
    refine yields_bind fun _ => yields_bind fun _ => yields_bind fun _ => yields_bind fun _ =>
      yields_node ?_
    split <;> trivial
  case filtered =>
    exact yields_bind fun _ => yields_bind fun _ => yields_bind fun _ => yields_node trivial
  case leave =>
    exact yields_orElse (yields_bind fun _ => yields_node trivial)
      (yields_bind fun _ => yields_node trivial)
  case block =>
    exact yields_bind fun _ => yields_bind fun _ => yields_bind fun _ => yields_node trivial

/-- The nodes of a template that are snippets have names. The reader of documents is built from
those above, and this puts their lemmas together. -/
theorem yields_document : Yields document fun document => ∀ node ∈ document.nodes, node.Named := by
  have hpart (length : Nat) (inner : Inner) :
      Yields ((Sum.inl <$> importTag) <|>
          (Sum.inr <$> element inner (elements inner length) .template))
        fun part => ∀ element ∈ part.getRight?, element.Named := by
    refine yields_orElse (Yields.map fun _ _ _ _ => nofun) ?_
    refine Yields.map fun text element rest hrun => ?_
    intro found hfound
    cases hfound
    exact yields_element _ _ _ text element rest hrun
  refine yields_bind fun text => yields_bind fun _ => yields_bind fun parent => ?_
  refine (hpart text.length (Grammar.level (text.length + 1))).many.bind fun parts hparts =>
    yields_pure ?_
  intro node hnode
  rcases Element.mem_assemble hnode with ⟨content, rfl⟩ | ⟨element, helement, hnode⟩
  · trivial
  · obtain ⟨part, hpart, hright⟩ := List.mem_filterMap.1 helement
    exact hparts part hpart element hright node hnode

end Reading

namespace Document

/-- The snippets of a template that could be read have names. All that a document yields is read by
the readers of this module, and its snippets are among its nodes. -/
theorem isName_of_parse {text : String} {document : Document} (h : parse text = .ok document)
    {name : String} {snippet : Snippet} (hmem : (name, snippet) ∈ document.snippets) :
    IsName name := by
  have hnodes : ∀ node ∈ document.nodes, node.Named := by
    unfold parse at h
    dsimp only at h
    split at h
    · cases h
    · cases h
    · rename_i found hrun
      have hfound := Reading.yields_document _ _ _ hrun
      split at h
      · cases h
      · repeat (split at h; · cases h)
        cases h
        exact hfound
  obtain ⟨node, hnode, hsnippet⟩ := List.mem_filterMap.1 hmem
  have hnamed := hnodes node hnode
  split at hsnippet
  · cases hsnippet
    exact hnamed
  · cases hsnippet

end Document

end DesignTokens.Template
