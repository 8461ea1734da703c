import Hanyu.Proofs.Determined
import Mathlib.Data.List.Forall2

/-!
# Annotation

A romanizer annotates the tokens of a batch and changes nothing else in it. What it writes down it
does not read again, so that of several runs over the same tokens the last one decides.

* `Pronouncer.onlyAnnotated_of_annotate`: what changes in a token.
* `Pronouncer.annotate_of_onlyAnnotated`: an annotated token is annotated like the one before.
* `Chinese.Romanizer.romanize_of_onlyAnnotated`: an annotated batch is romanized like the one before.
* `Chinese.Romanizer.lastStyleWins`: what a run changes, and what is left of it after another one.
-/

namespace Hanyu

variable {σ : Type}

/-! ## Annotated tokens -/

/-- What annotating makes of a token. -/
structure Token.OnlyAnnotated (before after : Token) : Prop where
  /-- The span, whether it is a word, its tag, and whether it is Chinese. -/
  outline : after.outline = before.outline
  /-- A token that is no word, or has characters other than Han ideographs, or is not Chinese, is its
  own romanization and carries what it did. -/
  asIs : before.isLexical = false ∨ before.surface.isHanText = false ∨ before.details = .generic →
    after.romanization = before.surface ∧ after.details = before.details

theorem Token.isPronounceable_eq_false_iff {token : Token} :
    token.isPronounceable = false ↔
      token.isLexical = false ∨ token.surface.isHanText = false ∨ token.details = .generic := by
  have hdetails : token.reading?.isSome = false ↔ token.details = .generic := by
    unfold reading?
    cases token.details <;> simp
  rw [isPronounceable, Bool.and_eq_false_iff, Bool.and_eq_false_iff, hdetails, or_assoc]

theorem Token.isPronounceable_of_outline_eq {token token' : Token}
    (h : token'.outline = token.outline) : token'.isPronounceable = token.isPronounceable := by
  obtain ⟨hsurface, hlexical, -, hchinese⟩ := Outline.mk.inj h
  rw [isPronounceable, isPronounceable, hsurface, hlexical, hchinese]

/-- A reading is put into a token whatever is noted in it. -/
theorem Token.withReading_of_outline_eq {token token' : Token} (h : token'.outline = token.outline)
    (reading : Reading) : token'.withReading reading = token.withReading reading := by
  obtain ⟨hsurface, hlexical, htag, -⟩ := Outline.mk.inj h
  rw [withReading, withReading, hsurface, hlexical, htag]

namespace Pronouncer

variable {pronouncer : Pronouncer σ} {style : Style} {token token' : Token} {s t : Session σ}

theorem onlyAnnotated_of_annotate
    (h : pronouncer.annotate style token s = (.ok token', t)) : token.OnlyAnnotated token' := by
  refine ⟨Chinese.outline_of_annotate h, fun hcase => ?_⟩
  rw [← Token.isPronounceable_eq_false_iff] at hcase
  have hrun := h.symm.trans (annotate_of_not_isPronounceable hcase s)
  obtain rfl := Except.ok.inj (Prod.mk.inj hrun).1
  exact ⟨rfl, rfl⟩

/-- An annotated token is annotated like the one before: neither its romanization nor its reading is
looked at. -/
theorem annotate_of_onlyAnnotated (pronouncer : Pronouncer σ) (style : Style)
    (h : token.OnlyAnnotated token') :
    pronouncer.annotate style token' = pronouncer.annotate style token := by
  have hpronounceable := Token.isPronounceable_of_outline_eq h.outline
  obtain ⟨hsurface, hlexical, htag, -⟩ := Token.Outline.mk.inj h.outline
  cases hp : token.isPronounceable with
  | true =>
    rw [hp] at hpronounceable
    simp only [annotate, hp, hpronounceable, if_true, hsurface,
      Token.withReading_of_outline_eq h.outline]
  | false =>
    rw [hp] at hpronounceable
    have hdetails := (h.asIs (Token.isPronounceable_eq_false_iff.mp hp)).2
    have hsame : token'.romanizedAsIs = token.romanizedAsIs := by
      rw [Token.romanizedAsIs, Token.romanizedAsIs, hsurface, hlexical, htag, hdetails]
    funext s
    exact (annotate_of_not_isPronounceable hpronounceable s).trans
      (hsame ▸ (annotate_of_not_isPronounceable hp s).symm)

end Pronouncer

/-! ## Annotated batches -/

/-- What a romanizer makes of a batch: the same raw text, and the same tokens with annotations, in
the same order. -/
structure Batch.OnlyAnnotated (before after : Batch) : Prop where
  raw : after.raw = before.raw
  tokens : List.Forall₂ Token.OnlyAnnotated before.tokens after.tokens

namespace Chinese.Romanizer

variable {romanizer : Romanizer σ} {context : RunContext σ} {batch out : Batch} {s t : Session σ}

theorem onlyAnnotated_of_romanize (h : romanizer.romanize context batch s = (.ok out, t)) :
    batch.OnlyAnnotated out := by
  obtain ⟨-, hraw, htokens⟩ := relates_of_romanize (R := List.Forall₂ Token.OnlyAnnotated) .nil
    (fun _ _ _ _ _ _ ha htokens => .cons (Pronouncer.onlyAnnotated_of_annotate ha) htokens) h
  exact ⟨hraw, htokens⟩

/-- An annotated batch is romanized like the one before, by every romanizer. -/
theorem romanize_of_onlyAnnotated (h : batch.OnlyAnnotated out) (romanizer : Romanizer σ)
    (context : RunContext σ) : romanizer.romanize context out = romanizer.romanize context batch := by
  have hwork := h.tokens.imp fun token token' htoken =>
    romanizer.pronouncer.annotate_of_onlyAnnotated romanizer.style htoken
  rw [romanize_eq, romanize_eq, RunContext.workThrough_congr context _ hwork, h.raw]

/-- A romanizer that succeeds is ready, and has made of a batch what it always makes of it when the
pronouncer answers from a table, also in a run that has to stop in the end. -/
theorem romanizedBatch_of_romanize {table : Text → Style → Bool → Except Fault (List (List Text))}
    (htable : ∀ text style all notes,
      (romanizer.pronouncer text style all notes).answer = table text style all)
    (h : romanizer.romanize context batch s = (.ok out, t)) :
    romanizer.isReady = true ∧ romanizedBatch table romanizer.style batch = .ok out := by
  obtain ⟨hready, hraw, htokens⟩ := relates_of_romanize
    (R := fun tokens tokens' =>
      tokens.mapM (Pronouncer.annotated table romanizer.style) = .ok tokens') rfl
    (fun token tokens token' tokens' s t ha hr => by
      -- No state is one to stop in here, so that the determined result is that of every run.
      have htoken := Pronouncer.gives_annotate (I := fun _ => False) htable
        (fun _ _ _ _ => id) romanizer.style token s id
      rw [ha] at htoken
      rw [List.mapM_cons, ← htoken, hr]
      rfl) h
  refine ⟨hready, ?_⟩
  rw [romanizedBatch, htokens]
  exact congrArg Except.ok (congrArg (Batch.mk · out.tokens) hraw.symm)

/-- **The last style wins.** A romanizer that succeeds keeps the raw text and the tokens of a batch,
in their order, and only annotates them; those that are not to be pronounced are their own
romanization. What comes out is then romanized, in every style, as the batch would have been: with
the same result and the same session in every session. With a pure pronouncer the results of the
two are the same in any two runs that do not have to stop, and what comes out is left as it is by
the same romanizer. -/
theorem lastStyleWins (h : romanizer.romanize context batch s = (.ok out, t)) :
    batch.OnlyAnnotated out ∧
    (∀ (later : Romanizer σ) (context : RunContext σ) (s : Session σ),
      later.romanize context out s = later.romanize context batch s) ∧
    (romanizer.pronouncer.IsPure → ∀ (style : Style) (context context' : RunContext σ)
      (s s' : Session σ), let later := { romanizer with style }
      ¬context.cancellation.Stops (later.romanize context out s).2 →
      ¬context'.cancellation.Stops (later.romanize context' batch s').2 →
        (later.romanize context out s).1 = (later.romanize context' batch s').1) ∧
    (romanizer.pronouncer.IsPure → ∀ (context : RunContext σ) (s : Session σ),
      ¬context.cancellation.Stops (romanizer.romanize context out s).2 →
        (romanizer.romanize context out s).1 = .ok out) := by
  have hkept := onlyAnnotated_of_romanize h
  have hagain := @romanize_of_onlyAnnotated σ batch out hkept
  refine ⟨hkept, fun later context s => congrFun (hagain later context) s, ?_, ?_⟩
  · intro hpure style context context' s s' later hs hs'
    obtain ⟨result, hresult⟩ := @exists_gives_romanize σ later hpure batch
    rw [hagain later context] at hs ⊢
    rw [hresult context s hs, hresult context' s' hs']
  · rintro ⟨table, htable⟩ context s hs
    rw [hagain romanizer context] at hs ⊢
    obtain ⟨hready, hmade⟩ := romanizedBatch_of_romanize htable h
    rw [gives_romanize hready htable context batch s hs, hmade]

/-- A word with stale notes, a comma that carries a reading, and a word that is not Chinese: after
tone marks, tone digits leave what they leave without them, and tone marks once more change
nothing. -/
theorem lastStyleWins_numbered :
    let pronouncer : Pronouncer Unit := fun _ style _ =>
      .answer (.ok [[if style = .tone3 then "hao3".toList else "hǎo".toList]])
    let marked : Romanizer Unit := ⟨pronouncer, .tone, true, 1⟩
    let numbered : Romanizer Unit := { marked with style := .tone3 }
    let context : RunContext Unit := .under ⟨⟨0⟩, none⟩
    let stale : Reading := ⟨['a'], ['b'], [], [[['c']]], none, some 9, true⟩
    let comma : Token := ⟨['，'], false, ['d'], none, .chinese stale⟩
    let batch : Batch := ⟨[['x']],
      [⟨['好'], true, ['e'], some ['n'], .chinese stale⟩, comma, .lexical ['好']]⟩
    let out (reading : Reading) : Batch := ⟨[['x']],
      [⟨['好'], true, reading.primary, some ['n'], .chinese reading⟩, comma.romanizedAsIs,
        (Token.lexical ['好']).romanizedAsIs]⟩
    let reading (primary : Text) : Reading :=
      ⟨primary, "hao3".toList, [[primary]], [["hao3".toList]], some 3, some 3, false⟩
    (marked.romanize context batch (.start 0 ())).1 = .ok (out (reading "hǎo".toList)) ∧
      batch.OnlyAnnotated (out (reading "hǎo".toList)) ∧
      (numbered.romanize context (out (reading "hǎo".toList)) (.start 0 ())).1 =
        .ok (out (reading "hao3".toList)) ∧
      (marked.romanize context (out (reading "hǎo".toList)) (.start 0 ())).1 =
        .ok (out (reading "hǎo".toList)) := by
  intro pronouncer marked numbered context stale comma batch out reading
  have hpure : marked.pronouncer.IsPure :=
    ⟨fun _ style _ => .ok [[if style = .tone3 then "hao3".toList else "hǎo".toList]],
      fun _ _ _ _ => rfl⟩
  have hrun : (marked.romanize context batch (.start 0 ())).1 =
      .ok (out (reading "hǎo".toList)) := by decide +kernel
  obtain ⟨hkept, hagain, -, hsame⟩ := lastStyleWins (Prod.ext hrun rfl)
  refine ⟨hrun, hkept, ?_, hsame hpure context (.start 0 ()) (by decide +kernel)⟩
  rw [hagain]
  decide +kernel

end Chinese.Romanizer

end Hanyu
