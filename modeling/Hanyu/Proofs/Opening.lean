import Hanyu.Engine
import Hanyu.Proofs.SchemeNames

/-!
# What is opened for Chinese

The catalog of what is declared for Chinese, and the pipelines that it opens: whatever scheme is
asked for, a tokenizer and a romanizer that nothing has been done with.

* `Chinese.ofDeclarations_eq_ok_iff`: the declarations make up a catalog exactly when the default
  scheme exists.
* `Chinese.resolveScheme_default`: which names the default scheme is found by.
* `Chinese.openPipeline_catalog`: then every scheme, and none, opens a pipeline.
* `Engine.openPipeline_ofLexicon`: so does an engine that works with a lexicon.
-/

namespace Hanyu

namespace Chinese

variable {σ ε : Type}

/-! ## The catalog -/

section Catalog

variable (settings : Settings) (segmenter : Segmenter σ ε) (pronouncer : Pronouncer σ)

/-- The catalog of what is declared for Chinese. -/
def catalog : Catalog (Stage σ ε) where
  providers := [
    ⟨language, Tokenizer.name, .tokenizer, Tokenizer.capabilities,
      .inl (.new segmenter settings.tokenizerLimit settings.checkInterval)⟩,
    ⟨language, Romanizer.name, .transliterator, Romanizer.capabilities,
      .inr (.new pronouncer settings.checkInterval)⟩]
  chains := [chain]
  schemes := schemes.map fun scheme => (language, scheme)
  defaults := [(language, settings.defaultScheme)]

/-- A tokenizer and a romanizer that nothing has been done with, but for the style. -/
def pipeline (style : Style) : Pipeline (Stage σ ε) :=
  .ofProviders language settings.chunkLimit [
    .inl (.new segmenter settings.tokenizerLimit settings.checkInterval),
    .inr { Romanizer.new pronouncer settings.checkInterval with style }]

/-- A scheme for Chinese has this name, up to case. -/
def HasScheme (name : Text) : Prop := ∃ scheme ∈ schemes, scheme.name.sameUpToCase name = true

theorem provider_of_mem_schemes : ∀ scheme ∈ schemes, scheme.provider = Romanizer.name := by
  intro scheme h
  obtain ⟨_, -, rfl⟩ := List.mem_map.mp h
  rfl

/-- Nothing is declared twice for Chinese. -/
theorem nodup_keys_declarations :
    ((declarations settings segmenter pronouncer).map Declaration.key).Nodup := by
  have hkeys : (declarations settings segmenter pronouncer).map Declaration.key =
      [.provider language .tokenizer Tokenizer.name,
        .provider language .transliterator Romanizer.name, .chain language] ++
      schemes.map (fun scheme => .scheme language scheme.name.foldCase) ++
      [.defaultScheme language] := rfl
  rw [hkeys]
  decide +kernel

theorem scheme_mem_declarations_iff {l : Text} {scheme : Scheme} :
    .scheme l scheme ∈ declarations settings segmenter pronouncer ↔
      l = language ∧ scheme ∈ schemes := by
  simp [declarations, and_comm, eq_comm]

theorem default_mem_declarations :
    .defaultScheme language settings.defaultScheme ∈
      declarations settings segmenter pronouncer := by
  simp [declarations]

/-- What is declared for Chinese is complete exactly when the default scheme exists. -/
theorem areComplete_declarations_iff :
    Declaration.AreComplete (declarations settings segmenter pronouncer) ↔
      HasScheme settings.defaultScheme := by
  have hschemes {l : Text} {scheme : Scheme} := @scheme_mem_declarations_iff σ ε settings segmenter
    pronouncer l scheme
  constructor
  · intro h
    obtain ⟨scheme, hs, hname⟩ := h.defaults _ _ (default_mem_declarations settings segmenter
      pronouncer)
    exact ⟨scheme, (hschemes.mp hs).2, hname⟩
  · rintro ⟨scheme, hs, hname⟩
    refine ⟨fun c hc link hl => ?_, fun l other hm => ?_, fun l name hm => ?_⟩
    · obtain rfl : c = chain := by simpa [declarations] using hc
      rcases List.mem_cons.mp hl with rfl | hl
      · exact ⟨_, List.mem_cons_self, rfl, rfl, rfl⟩
      · rw [List.mem_singleton.mp hl]
        exact ⟨_, List.mem_cons_of_mem _ List.mem_cons_self, rfl, rfl, rfl⟩
    · obtain ⟨rfl, ho⟩ := hschemes.mp hm
      rw [provider_of_mem_schemes other ho]
      exact ⟨_, List.mem_cons_of_mem _ List.mem_cons_self, rfl, rfl, rfl⟩
    · obtain ⟨rfl, rfl⟩ : l = language ∧ name = settings.defaultScheme := by
        simpa [declarations] using hm
      exact ⟨scheme, hschemes.mpr ⟨rfl, hs⟩, hname⟩

theorem declared_declarations :
    Catalog.declared (declarations settings segmenter pronouncer) =
      catalog settings segmenter pronouncer := rfl

/-- The declarations make up a catalog exactly when the default scheme exists. -/
theorem ofDeclarations_eq_ok_iff {made : Catalog (Stage σ ε)} :
    Catalog.ofDeclarations (declarations settings segmenter pronouncer) = .ok made ↔
      HasScheme settings.defaultScheme ∧ made = catalog settings segmenter pronouncer := by
  rw [Catalog.ofDeclarations_eq_ok_iff, areComplete_declarations_iff, declared_declarations]
  exact and_iff_right (nodup_keys_declarations settings segmenter pronouncer)

end Catalog

/-! ## Opening pipelines -/

variable {settings : Settings} (segmenter : Segmenter σ ε) (pronouncer : Pronouncer σ)

theorem trim_name : ∀ scheme ∈ schemes, scheme.name.trim = scheme.name := by decide +kernel

/-- The default scheme stands for its own names, and for every name that no scheme has. -/
theorem resolveScheme_default {scheme : Scheme} (hs : scheme ∈ schemes)
    (hd : scheme.name.sameUpToCase settings.defaultScheme = true) {asked : Text}
    (h : scheme.name.sameUpToCase asked.trim = true ∨ ¬HasScheme asked.trim) :
    (catalog settings segmenter pronouncer).resolveScheme language asked = .ok scheme := by
  rw [← declared_declarations]
  refine Catalog.resolveScheme_declared (nodup_keys_declarations settings segmenter pronouncer)
    ((scheme_mem_declarations_iff ..).mpr ⟨rfl, hs⟩)
    (default_mem_declarations settings segmenter pronouncer)
    (Text.sameUpToCase_trim (trim_name scheme hs) hd) (h.imp_right fun hunknown => ?_)
  exact fun other hm hother => hunknown ⟨other, ((scheme_mem_declarations_iff ..).mp hm).2, hother⟩

/-- A scheme is found for every name, as the default scheme is when no other one is. -/
theorem resolveScheme_catalog (hd : HasScheme settings.defaultScheme) (name : Text) :
    ∃ scheme ∈ schemes,
      (catalog settings segmenter pronouncer).resolveScheme language name = .ok scheme := by
  by_cases h : HasScheme name.trim
  · obtain ⟨found, hfound⟩ := Option.isSome_iff_exists.mp (List.find?_isSome.mpr h)
    exact ⟨found, List.mem_of_find?_eq_some hfound, Catalog.resolveScheme_of_scheme? hfound⟩
  · obtain ⟨scheme, hs, hname⟩ := hd
    exact ⟨scheme, hs, resolveScheme_default segmenter pronouncer hs hname (.inr h)⟩

/-- A pipeline for a name is set to the style of the scheme that the name stands for. -/
theorem openPipeline_of_resolved {scheme : Scheme} (hs : scheme ∈ schemes) {name : Text}
    (hr : (catalog settings segmenter pronouncer).resolveScheme language name = .ok scheme)
    (session : Session σ) :
    ((catalog settings segmenter pronouncer).openPipeline settings language (some name)).run
      session =
        (.ok (pipeline settings segmenter pronouncer (.parse scheme.parameter)), session) := by
  have h₁ : (Attempt.ofExcept ((catalog settings segmenter pronouncer).resolveScheme language
      name)).run session = (.ok scheme, session) := congrArg (·, session) hr
  have h₂ : (Attempt.ofExcept ((catalog settings segmenter pronouncer).assemble settings language
      (some scheme.provider))).run session =
        (.ok (pipeline settings segmenter pronouncer .tone), session) := by
    rw [provider_of_mem_schemes scheme hs]
    rfl
  rw [Catalog.openPipeline, Catalog.openScheme, Attempt.run_bind_ok h₁, Attempt.run_bind_ok h₂]
  rfl

/-- A pipeline for no scheme has the style that a romanizer is made with. -/
theorem openPipeline_none (session : Session σ) :
    ((catalog settings segmenter pronouncer).openPipeline settings language none).run session =
      (.ok (pipeline settings segmenter pronouncer .tone), session) := rfl

/-- Every scheme, and none, opens a pipeline. -/
theorem openPipeline_catalog (hd : HasScheme settings.defaultScheme) (scheme : Option Text)
    (session : Session σ) :
    ∃ style, ((catalog settings segmenter pronouncer).openPipeline settings language scheme).run
      session = (.ok (pipeline settings segmenter pronouncer style), session) := by
  cases scheme with
  | none => exact ⟨.tone, openPipeline_none segmenter pronouncer session⟩
  | some name =>
    obtain ⟨scheme, hs, hr⟩ :=
      resolveScheme_catalog segmenter pronouncer hd name
    exact ⟨_, openPipeline_of_resolved segmenter pronouncer hs hr session⟩

end Chinese

/-- An engine opens what its catalog opens. -/
theorem Engine.run_openPipeline {σ π : Type} [Provider σ π] {engine : Engine π}
    {language : Text} {scheme : Option Text} {pipeline : Pipeline π} {session session' : Session σ}
    (h : (engine.catalog.openPipeline engine.settings language scheme).run session =
      (.ok pipeline, session')) :
    (engine.openPipeline language scheme).run session = (.ok pipeline, session') := by
  simp only [Engine.openPipeline, Attempt.mapFailure, Attempt.run] at h ⊢
  rw [h]
  rfl

/-- An engine that works with a lexicon opens a pipeline for every scheme, and for none. -/
theorem Engine.openPipeline_ofLexicon {σ : Type} {settings : Settings} {lexicon : Lexicon}
    {engine : Engine (Chinese.Stage σ LexiconSegmenter)}
    (h : Engine.ofLexicon settings lexicon = .ok engine) (scheme : Option Text)
    (session : Session σ) :
    ∃ style, (engine.openPipeline Chinese.language scheme).run session =
      (.ok (Chinese.pipeline settings (.ofLexicon lexicon) (.ofLexicon lexicon) style),
        session) := by
  unfold Engine.ofLexicon at h
  split at h
  · rename_i made hm
    cases h
    obtain ⟨hd, rfl⟩ := (Chinese.ofDeclarations_eq_ok_iff _ _ _).mp hm
    obtain ⟨style, ho⟩ := Chinese.openPipeline_catalog _ _ hd scheme session
    exact ⟨style, Engine.run_openPipeline ho⟩
  · cases h

end Hanyu
