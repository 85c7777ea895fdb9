import DesignTokens.Proofs.Files.Success
import DesignTokens.Template.Source

/-!
# Rendering into files

What a source has done when it rendered into a file: its text was loaded, rendered as a whole and
then written (`TemplateSource.outcome_renderTo_ok_iff`). A bundled text needs no loading
(`TemplateSource.renderTo_bundled_spec`).
-/

set_option autoImplicit false

namespace DesignTokens

open DesignTokens.Action DesignTokens.FileTree DesignTokens.Template

namespace TemplateSource

/-- A reference resolves to a bundled template or to the path of a file. The names of bundled
templates are looked at first, so a file cannot hide one. -/
theorem resolve_cases {reference directory : String} {source : TemplateSource}
    {world world' : World}
    (h : outcome (resolve reference directory) world = (.ok source, world')) :
    (∃ template ∈ BundledTemplate.all, source = .bundled template) ∨
      BundledTemplate.find? reference = none ∧
        source = .file (Path.join directory reference) := by
  unfold resolve at h
  split at h
  · rename_i template hfind
    cases h
    exact Or.inl ⟨template, List.mem_of_find?_eq_some hfind, rfl⟩
  · rename_i hfind
    rw [outcome_bind, outcome_ask] at h
    dsimp only at h
    split at h
    · cases h
      exact Or.inr ⟨hfind, rfl⟩
    · cases h

end TemplateSource

variable [Engine]

/-- Rendering under a name succeeds with the text that rendering without one gives. The name is only
told in failures. -/
theorem Template.render_eq_ok_iff {name text rendered : String} {context : Members} :
    render name text context = .ok rendered ↔ renderText text context = .ok rendered := by
  rw [render]
  exact Result.mapError_eq_ok_iff

namespace TemplateSource

/-- What a source renders to in a context. -/
def rendered (source : TemplateSource) (context : Members) : Action String := do
  let text ← source.load
  Action.ofExcept (Template.render source.name text context)

/-- Rendering into a file is writing what the source renders to. -/
theorem renderTo_eq (source : TemplateSource) (context : Members) (output : String) :
    source.renderTo context output = (do
      Action.log .debug ("Rendering template '" ++ source.name ++ "' to " ++ output)
      let text ← source.rendered context
      Action.writeText output text) := by
  simp only [renderTo, rendered, bind_assoc]

/-- Rendering is loading, rendering and writing, each from what the one before has come to. The line
of the log stands in front of all three. -/
theorem outcome_renderTo_ok_iff {source : TemplateSource} {context : Members} {output : String}
    {world world' : World} :
    outcome (source.renderTo context output) world = (.ok (), world') ↔
      ∃ text loaded rendered,
        outcome source.load { world with log := world.log ++
          [⟨.debug, "Rendering template '" ++ source.name ++ "' to " ++ output⟩] } =
            (.ok text, loaded) ∧
        renderText text context = .ok rendered ∧
        outcome (writeText output rendered) loaded = (.ok (), world') := by
  rw [renderTo, outcome_bind, outcome_log]
  simp only [outcome_bind_ok_iff, outcome_ofExcept_ok_iff, Template.render_eq_ok_iff]
  constructor
  · rintro ⟨text, loaded, hload, rendered, _, ⟨hrender, rfl⟩, hwrite⟩
    exact ⟨text, _, rendered, hload, hrender, hwrite⟩
  · rintro ⟨text, loaded, rendered, hload, hrender, hwrite⟩
    exact ⟨text, loaded, hload, rendered, loaded, ⟨hrender, rfl⟩, hwrite⟩

/-- A bundled template that renders is written. -/
theorem outcome_renderTo_bundled {template : BundledTemplate} {context : Members}
    {rendered : String} (h : renderText template.content context = .ok rendered)
    (output : String) (world : World) :
    outcome ((bundled template).renderTo context output) world =
      outcome (writeText output rendered) { world with log := world.log ++
        [⟨.debug, "Rendering template '" ++ template.name ++ "' to " ++ output⟩] } := by
  have hrender : Template.render template.name template.content context = .ok rendered :=
    Template.render_eq_ok_iff.2 h
  rw [renderTo, outcome_bind, outcome_log]
  simp only [load, name, pure_bind, hrender]
  rfl

/-- A bundled template that was rendered into a file stands in it as rendered. -/
theorem renderTo_bundled_spec {template : BundledTemplate} {context : Members} {output : String}
    {world world' : World}
    (h : outcome ((bundled template).renderTo context output) world = (.ok (), world')) :
    ∃ rendered inside name, renderText template.content context = .ok rendered ∧
      Written world.tree world'.tree output inside name rendered.toUTF8 := by
  obtain ⟨text, loaded, rendered, hload, hrender, hwrite⟩ := outcome_renderTo_ok_iff.1 h
  cases hload
  obtain ⟨inside, name, hwritten⟩ := writeText_spec hwrite
  exact ⟨rendered, inside, name, hrender, hwritten⟩

end TemplateSource

end DesignTokens
