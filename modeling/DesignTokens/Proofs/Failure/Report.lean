import DesignTokens.Files.Action
import DesignTokens.Proofs.Files.Outcome

/-!
# What a report keeps of a failure

A failure carries the texts of its contexts and of its cause. `Mentions` says that a message holds
texts one behind the other, and it composes along both (`mentions_append_iff`). A failure that is
flattened keeps all of its texts (`mentions_flatten`). A fault of the file system is recovered from
under its contexts instead, and these are lost unless the words in front of the fault happen to hold
them (`mentions_fault_iff`), and with them the path of a file that cannot be read
(`failsOnly_readText`). Of the failures without a known problem, `mentions_chain_iff` tells
which ones are reported as a whole.
-/

set_option autoImplicit false

namespace DesignTokens

/-! ### Texts in a message -/

/-- The texts occur in the message one behind the other, without overlap. -/
def Mentions : List String → String → Prop
  | [], _ => True
  | text :: texts, message =>
    ∃ before after, message = before ++ text ++ after ∧ Mentions texts after

namespace Mentions

variable {texts : List String} {message : String}

/-- More text in front of the message hides nothing. -/
theorem append_left (h : Mentions texts message) (front : String) :
    Mentions texts (front ++ message) := by
  cases texts with
  | nil => trivial
  | cons text texts =>
    obtain ⟨before, after, rfl, hrest⟩ := h
    exact ⟨front ++ before, after, by simp only [String.append_assoc], hrest⟩

/-- Neither does more text behind it. -/
theorem append_right (h : Mentions texts message) (back : String) :
    Mentions texts (message ++ back) := by
  induction texts generalizing message with
  | nil => trivial
  | cons text texts ih =>
    obtain ⟨before, after, rfl, hrest⟩ := h
    exact ⟨before, after ++ back, by simp only [String.append_assoc], ih hrest⟩

/-- No text that a message mentions is longer than the message. -/
theorem length_le (h : Mentions texts message) {text : String} (hmem : text ∈ texts) :
    text.length ≤ message.length := by
  induction texts generalizing message with
  | nil => cases hmem
  | cons first texts ih =>
    obtain ⟨before, after, rfl, hrest⟩ := h
    simp only [String.length_append]
    rcases List.mem_cons.1 hmem with rfl | hmem
    · omega
    · have hafter := ih hrest hmem
      omega

end Mentions

/-- A message mentions a text if it has the text somewhere in it. -/
theorem mentions_singleton_iff {text message : String} :
    Mentions [text] message ↔ ∃ before after, message = before ++ text ++ after := by
  simp [Mentions]

/-- A message mentions two lists of texts if it can be cut between them. So what a long message
mentions can be shown for its parts, and a message mentions no more texts than fit into it. -/
theorem mentions_append_iff {texts more : List String} {message : String} :
    Mentions (texts ++ more) message ↔
      ∃ front back, message = front ++ back ∧ Mentions texts front ∧ Mentions more back := by
  induction texts generalizing message with
  | nil =>
    constructor
    · exact fun h => ⟨"", message, by simp, trivial, h⟩
    · rintro ⟨front, back, rfl, -, h⟩
      exact h.append_left front
  | cons text texts ih =>
    constructor
    · rintro ⟨before, after, rfl, hrest⟩
      obtain ⟨front, back, rfl, hfront, hback⟩ := ih.1 hrest
      exact ⟨before ++ text ++ front, back, by simp only [String.append_assoc],
        ⟨before, front, rfl, hfront⟩, hback⟩
    · rintro ⟨front, back, rfl, ⟨before, after, rfl, hrest⟩, hback⟩
      exact ⟨before, after ++ back, by simp only [String.append_assoc],
        ih.2 ⟨after, back, rfl, hrest, hback⟩⟩

/-- A text at the end of a message is mentioned behind what the words in front of it mention. -/
theorem mentions_concat_iff {texts : List String} {words text : String} :
    Mentions (texts ++ [text]) (words ++ text) ↔ Mentions texts words := by
  rw [mentions_append_iff]
  constructor
  · rintro ⟨front, back, hsplit, hfront, hback⟩
    obtain ⟨before, after, rfl⟩ := mentions_singleton_iff.1 hback
    -- the text fits behind `front`, so `front` is a beginning of the words
    have hchars : words.toList ++ text.toList =
        front.toList ++ (before.toList ++ text.toList ++ after.toList) := by
      simpa using congrArg String.toList hsplit
    have hlength : front.toList.length ≤ words.toList.length := by
      have h := congrArg List.length hchars
      simp only [List.length_append] at h
      omega
    obtain ⟨rest, hrest⟩ :=
      List.prefix_of_prefix_length_le ⟨_, hchars.symm⟩ ⟨text.toList, rfl⟩ hlength
    have hwords : words = front ++ String.ofList rest := by
      rw [← String.toList_inj, String.toList_append, String.toList_ofList, hrest]
    rw [hwords]
    exact hfront.append_right _
  · exact fun h => ⟨words, text, rfl, h, mentions_singleton_iff.2 ⟨"", "", by simp⟩⟩

/-! ### Failures -/

namespace Failure

/-- The lines of the causes mention these in order. -/
theorem mentions_causeLines (number : Nat) (texts : List String) :
    Mentions texts (causeLines number texts) := by
  induction texts generalizing number with
  | nil => trivial
  | cons text texts ih =>
    exact ⟨"\n  " ++ toString number ++ ": ", causeLines (number + 1) texts, rfl, ih (number + 1)⟩

/-- A flattened failure mentions all of its texts in order: the outermost one is its first line, and
the others follow it as numbered causes. This holds for any failure, and the report decides whether
to flatten. -/
theorem mentions_flatten (failure : Failure) : Mentions failure.chain failure.flatten := by
  unfold flatten
  split
  · rename_i hchain
    rw [hchain]
    trivial
  · rename_i text hchain
    rw [hchain]
    exact mentions_singleton_iff.2 ⟨"", "", by simp⟩
  · rename_i text causes _ hchain
    rw [hchain]
    refine ⟨"", "\n\nCaused by:" ++ causeLines 1 causes, ?_, ?_⟩
    · simp [String.append_assoc]
    · exact (mentions_causeLines 1 causes).append_left _

end Failure

/-! ### Reports -/

namespace Report

/-- The report of a fault of the file system mentions the contexts of the fault exactly if the words
in front of the fault do. -/
theorem mentions_fault_iff {contexts : List String} {fault : FileFault} :
    Mentions (Failure.chain ⟨contexts, .file fault⟩)
        (ofFailure ⟨contexts, .file fault⟩).problem.message ↔
      Mentions contexts "IO error: " :=
  mentions_concat_iff

/-- A context that is longer than these words is lost, whatever stands around it. -/
theorem not_mentions_fault {contexts : List String} {fault : FileFault} {context : String}
    (hmem : context ∈ contexts) (hlong : "IO error: ".length < context.length) :
    ¬ Mentions (Failure.chain ⟨contexts, .file fault⟩)
      (ofFailure ⟨contexts, .file fault⟩).problem.message := by
  rw [mentions_fault_iff]
  exact fun h => Nat.not_le.2 hlong (h.length_le hmem)

/-- So nobody learns from the report which file could not be read. The path stands in the context of
the fault, and the report of a fault of the file system leaves its contexts out. -/
theorem failsOnly_readText (path : String) :
    (Action.readText path).FailsOnly fun failure =>
      ¬ Mentions failure.chain (ofFailure failure).problem.message := by
  refine Action.failsOnly_look fun fault => not_mentions_fault List.mem_cons_self ?_
  rw [String.length_append]
  exact Nat.lt_add_right _ (by decide)

/-- The report of a failure without a known problem mentions all contexts and the cause, outermost
first, exactly if the cause is no fault of the file system, or one whose contexts are part of the
words `IO error: `. -/
theorem mentions_chain_iff {failure : Failure}
    (huntyped : ∀ problem, failure.cause ≠ .known problem) :
    Mentions failure.chain (ofFailure failure).problem.message ↔
      ∀ fault, failure.cause = .file fault → Mentions failure.contexts "IO error: " := by
  obtain ⟨contexts, cause⟩ := failure
  cases cause with
  | known problem => exact absurd rfl (huntyped problem)
  | file fault =>
    rw [mentions_fault_iff]
    exact ⟨fun h _ _ => h, fun h => h fault rfl⟩
  | plain message =>
    constructor
    · intro _ fault hfault
      cases hfault
    · exact fun _ => Failure.mentions_flatten ⟨contexts, .plain message⟩

/-- A plain message is reported with the sections around it. -/
theorem mentions_chain_nested :
    (∀ problem, Cause.plain "root cause" ≠ .known problem) ∧
    Mentions ["Failed to generate section 'files'", "Failed to parse", "root cause"]
      (ofFailure ⟨["Failed to generate section 'files'", "Failed to parse"],
        .plain "root cause"⟩).problem.message := by
  have huntyped : ∀ problem, Cause.plain "root cause" ≠ .known problem := nofun
  have h := @mentions_chain_iff ⟨["Failed to generate section 'files'", "Failed to parse"],
    .plain "root cause"⟩ huntyped
  exact ⟨huntyped, h.2 nofun⟩

/-- The report of a missing file does not say which file it is. -/
theorem readText_missing :
    Action.outcome (Action.readText "token.json") ⟨⟨[], []⟩, []⟩ =
      (.error ⟨["Failed to read file: token.json"], .file .noEntry⟩, ⟨⟨[], []⟩, []⟩) ∧
    ¬ Mentions ["Failed to read file: token.json", "No such file or directory (os error 2)"]
      (ofFailure ⟨["Failed to read file: token.json"], .file .noEntry⟩).problem.message := by
  have hfails : Action.outcome (Action.readText "token.json") ⟨⟨[], []⟩, []⟩ =
      (.error ⟨["Failed to read file: token.json"], .file .noEntry⟩, ⟨⟨[], []⟩, []⟩) := rfl
  exact ⟨hfails, failsOnly_readText "token.json" _ _ _ hfails⟩

end Report

end DesignTokens
