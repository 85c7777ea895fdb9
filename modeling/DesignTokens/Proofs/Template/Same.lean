import DesignTokens.Template.Node

/-!
# Deciding whether templates are the same

Structural comparison of the parts of templates, so that what a text reads as can be compared with a
template that is written out. A comparison that succeeds is an equality (`eq_of_sameNodes`).
-/

set_option autoImplicit false

namespace DesignTokens.Template

/-! ### Expressions -/

mutual

/-- Structural equality of terms. -/
def Term.same : Term → Term → Bool
  | .string a, .string b => a == b
  | .integer a, .integer b => a == b
  | .float a, .float b => a == b
  | .boolean a, .boolean b => a == b
  | .variable a, .variable b => a == b
  | .arithmetic o a b, .arithmetic p c d => o == p && (a.same c && b.same d)
  | .relation o a b, .relation p c d => o == p && (a.same c && b.same d)
  | .membership m a b, .membership n c d => m == n && (a.same c && b.same d)
  | .test m p s as, .test n q t bs => m == n && (p == q && (s == t && sameAll as bs))
  | .call s as, .call t bs => s == t && sameNamed as bs
  | .snippet p s as, .snippet q t bs => p == q && (s == t && sameNamed as bs)
  | .array as, .array bs => sameAll as bs
  | .concatenation as, .concatenation bs => sameParts as bs
  | _, _ => false

/-- Structural equality of expressions. -/
def Expression.same : Expression → Expression → Bool
  | .mk m a fs, .mk n b gs => m == n && (a.same b && sameFilters fs gs)

/-- Structural equality of lists of expressions. -/
def sameAll : List Expression → List Expression → Bool
  | [], [] => true
  | a :: as, b :: bs => a.same b && sameAll as bs
  | _, _ => false

/-- Structural equality of named expressions. -/
def sameNamed : List (String × Expression) → List (String × Expression) → Bool
  | [], [] => true
  | (s, a) :: as, (t, b) :: bs => s == t && (a.same b && sameNamed as bs)
  | _, _ => false

/-- Structural equality of lists of terms. -/
def sameParts : List Term → List Term → Bool
  | [], [] => true
  | a :: as, b :: bs => a.same b && sameParts as bs
  | _, _ => false

/-- Structural equality of lists of filters. -/
def sameFilters : List Filter → List Filter → Bool
  | [], [] => true
  | .mk s as :: fs, .mk t bs :: gs => s == t && (sameNamed as bs && sameFilters fs gs)
  | _, _ => false

end

mutual

/-- Terms that compare as the same are equal. The cases follow the constructors of the first one. -/
theorem Term.eq_of_same : ∀ {a b : Term}, a.same b = true → a = b
  | .string _, b, h => by cases b <;> simp_all [Term.same]
  | .integer _, b, h => by cases b <;> simp_all [Term.same]
  | .float _, b, h => by cases b <;> simp_all [Term.same]
  | .boolean _, b, h => by cases b <;> simp_all [Term.same]
  | .variable _, b, h => by cases b <;> simp_all [Term.same]
  | .arithmetic _ _ _, b, h => by
    cases b <;> simp [Term.same] at h ⊢
    exact ⟨h.1, Expression.eq_of_same h.2.1, Expression.eq_of_same h.2.2⟩
  | .relation _ _ _, b, h => by
    cases b <;> simp [Term.same] at h ⊢
    exact ⟨h.1, Expression.eq_of_same h.2.1, Expression.eq_of_same h.2.2⟩
  | .membership _ _ _, b, h => by
    cases b <;> simp [Term.same] at h ⊢
    exact ⟨h.1, Expression.eq_of_same h.2.1, Expression.eq_of_same h.2.2⟩
  | .test _ _ _ _, b, h => by
    cases b <;> simp [Term.same] at h ⊢
    exact ⟨h.1, h.2.1, h.2.2.1, eq_of_sameAll h.2.2.2⟩
  | .call _ _, b, h => by
    cases b <;> simp [Term.same] at h ⊢
    exact ⟨h.1, eq_of_sameNamed h.2⟩
  | .snippet _ _ _, b, h => by
    cases b <;> simp [Term.same] at h ⊢
    exact ⟨h.1, h.2.1, eq_of_sameNamed h.2.2⟩
  | .array _, b, h => by
    cases b <;> simp [Term.same] at h ⊢
    exact eq_of_sameAll h
  | .concatenation _, b, h => by
    cases b <;> simp [Term.same] at h ⊢
    exact eq_of_sameParts h

/-- The same for expressions. -/
theorem Expression.eq_of_same : ∀ {a b : Expression}, a.same b = true → a = b
  | .mk _ _ _, .mk _ _ _, h => by
    simp [Expression.same] at h ⊢
    exact ⟨h.1, Term.eq_of_same h.2.1, eq_of_sameFilters h.2.2⟩

/-- For lists of expressions. -/
theorem eq_of_sameAll : ∀ {as bs : List Expression}, sameAll as bs = true → as = bs
  | [], [], _ => rfl
  | a :: as, b :: bs, h => by
    simp [sameAll] at h
    simp [Expression.eq_of_same h.1, eq_of_sameAll h.2]
  | [], _ :: _, h => by simp [sameAll] at h
  | _ :: _, [], h => by simp [sameAll] at h

/-- For arguments with their names. -/
theorem eq_of_sameNamed :
    ∀ {as bs : List (String × Expression)}, sameNamed as bs = true → as = bs
  | [], [], _ => rfl
  | (s, a) :: as, (t, b) :: bs, h => by
    simp [sameNamed] at h
    simp [h.1, Expression.eq_of_same h.2.1, eq_of_sameNamed h.2.2]
  | [], _ :: _, h => by simp [sameNamed] at h
  | _ :: _, [], h => by simp [sameNamed] at h

/-- For the parts of a joined text. -/
theorem eq_of_sameParts : ∀ {as bs : List Term}, sameParts as bs = true → as = bs
  | [], [], _ => rfl
  | a :: as, b :: bs, h => by
    simp [sameParts] at h
    simp [Term.eq_of_same h.1, eq_of_sameParts h.2]
  | [], _ :: _, h => by simp [sameParts] at h
  | _ :: _, [], h => by simp [sameParts] at h

/-- For chains of filters. -/
theorem eq_of_sameFilters : ∀ {fs gs : List Filter}, sameFilters fs gs = true → fs = gs
  | [], [], _ => rfl
  | .mk _ _ :: fs, .mk _ _ :: gs, h => by
    simp [sameFilters] at h
    simp [h.1, eq_of_sameNamed h.2.1, eq_of_sameFilters h.2.2]
  | [], _ :: _, h => by simp [sameFilters] at h
  | _ :: _, [], h => by simp [sameFilters] at h

end

/-! ### Nodes -/

/-- Structural equality of filters. -/
def Filter.same (f g : Filter) : Bool :=
  sameFilters [f] [g]

/-- For a single filter. -/
theorem Filter.eq_of_same {f g : Filter} (h : f.same g = true) : f = g := by
  simpa using eq_of_sameFilters h

mutual

/-- Structural equality of nodes. -/
def Node.same : Node → Node → Bool
  | .text a, .text b => a == b
  | .output a, .output b => a.same b
  | .assign m s a, .assign n t b => m == n && (s == t && a.same b)
  | .conditional as ms, .conditional bs ns => sameBranches as bs && sameNodes ms ns
  | .loop k s a ms os, .loop l t b ns ps =>
    k == l && (s == t && (a.same b && (sameNodes ms ns && sameNodes os ps)))
  | .filtered f ms, .filtered g ns => f.same g && sameNodes ms ns
  | .block s ms, .block t ns => s == t && sameNodes ms ns
  | .snippet s as ms, .snippet t bs ns => s == t && (decide (as = bs) && sameNodes ms ns)
  | .include as a, .include bs b => as == bs && a == b
  | .inherited, .inherited => true
  | .breakLoop, .breakLoop => true
  | .continueLoop, .continueLoop => true
  | _, _ => false

/-- Structural equality of lists of nodes. -/
def sameNodes : List Node → List Node → Bool
  | [], [] => true
  | m :: ms, n :: ns => m.same n && sameNodes ms ns
  | _, _ => false

/-- Structural equality of branches. -/
def sameBranches : List (Expression × List Node) → List (Expression × List Node) → Bool
  | [], [] => true
  | (a, ms) :: as, (b, ns) :: bs => a.same b && (sameNodes ms ns && sameBranches as bs)
  | _, _ => false

end

mutual

/-- For the nodes of a template. -/
theorem Node.eq_of_same : ∀ {m n : Node}, m.same n = true → m = n
  | .text _, n, h => by cases n <;> simp_all [Node.same]
  | .output _, n, h => by
    cases n <;> simp [Node.same] at h ⊢
    exact Expression.eq_of_same h
  | .assign _ _ _, n, h => by
    cases n <;> simp [Node.same] at h ⊢
    exact ⟨h.1, h.2.1, Expression.eq_of_same h.2.2⟩
  | .conditional _ _, n, h => by
    cases n <;> simp [Node.same] at h ⊢
    exact ⟨eq_of_sameBranches h.1, eq_of_sameNodes h.2⟩
  | .loop _ _ _ _ _, n, h => by
    cases n <;> simp [Node.same] at h ⊢
    exact ⟨h.1, h.2.1, Expression.eq_of_same h.2.2.1, eq_of_sameNodes h.2.2.2.1,
      eq_of_sameNodes h.2.2.2.2⟩
  | .filtered _ _, n, h => by
    cases n <;> simp [Node.same] at h ⊢
    exact ⟨Filter.eq_of_same h.1, eq_of_sameNodes h.2⟩
  | .block _ _, n, h => by
    cases n <;> simp [Node.same] at h ⊢
    exact ⟨h.1, eq_of_sameNodes h.2⟩
  | .snippet _ _ _, n, h => by
    cases n <;> simp [Node.same] at h ⊢
    exact ⟨h.1, h.2.1, eq_of_sameNodes h.2.2⟩
  | .include _ _, n, h => by cases n <;> simp_all [Node.same]
  | .inherited, n, h => by cases n <;> simp_all [Node.same]
  | .breakLoop, n, h => by cases n <;> simp_all [Node.same]
  | .continueLoop, n, h => by cases n <;> simp_all [Node.same]

/-- For lists of nodes, which is what tests of the reader compare: to show what a text parses to, it
is enough to evaluate the comparison. -/
theorem eq_of_sameNodes : ∀ {ms ns : List Node}, sameNodes ms ns = true → ms = ns
  | [], [], _ => rfl
  | m :: ms, n :: ns, h => by
    simp [sameNodes] at h
    simp [Node.eq_of_same h.1, eq_of_sameNodes h.2]
  | [], _ :: _, h => by simp [sameNodes] at h
  | _ :: _, [], h => by simp [sameNodes] at h

/-- For the branches of a condition. -/
theorem eq_of_sameBranches :
    ∀ {as bs : List (Expression × List Node)}, sameBranches as bs = true → as = bs
  | [], [], _ => rfl
  | (a, ms) :: as, (b, ns) :: bs, h => by
    simp [sameBranches] at h
    simp [Expression.eq_of_same h.1, eq_of_sameNodes h.2.1, eq_of_sameBranches h.2.2]
  | [], _ :: _, h => by simp [sameBranches] at h
  | _ :: _, [], h => by simp [sameBranches] at h

end

end DesignTokens.Template
