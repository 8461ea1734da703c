import Hanyu.Catalog
import Hanyu.Chinese.Romanizer
import Hanyu.Chinese.Tokenizer
import Hanyu.Settings

/-!
# What there is for Chinese

The tokenizer and the romanizer, the chain of both, and a scheme for every style of pinyin.

* `parse?_parameter`: the parameter of every scheme is the name of a style.
-/

namespace Hanyu.Chinese

/-- A stage for Chinese. -/
abbrev Stage (σ ε : Type) := Tokenizer σ ε ⊕ Romanizer σ

/-- The code of the language. -/
def language : Text := "zh".toList

/-- For every style the name and the description of its scheme. -/
def styles : List (String × String × Style) := [
  ("Pinyin", "Pinyin with tone marks (nǐ hǎo)", .tone),
  ("Pinyin (plain)", "Pinyin without tones (ni hao)", .normal),
  ("Pinyin (numbered)", "Pinyin with tone numbers (ni3 hao3)", .tone3),
  ("Pinyin (tone after vowel)", "Tone number after the marked vowel (ni3 ha3o)", .tone2),
  ("Pinyin initials", "Initial consonants only (n h)", .initials),
  ("Pinyin first letters", "First letter of each syllable (n h)", .firstLetter),
  ("Pinyin finals", "Finals without tones (i ao)", .finals),
  ("Pinyin finals (tone marks)", "Finals with tone marks (ǐ ǎo)", .finalsTone),
  ("Pinyin finals (tone after vowel)", "Finals, tone number after the marked vowel (i3 a3o)",
    .finalsTone2),
  ("Pinyin finals (numbered)", "Finals with tone numbers (i3 ao3)", .finalsTone3)]

/-- The schemes, in the order of their listing. -/
def schemes : List Scheme := styles.map fun (name, description, style) =>
  ⟨name.toList, description.toList, Romanizer.name, style.name.toList⟩

/-- The tokenizer and the romanizer in the order in which they work. -/
def chain : Chain :=
  ⟨language, [⟨.tokenizer, Tokenizer.name⟩, ⟨.transliterator, Romanizer.name⟩]⟩

/-- All that is declared for Chinese, with a segmenter and a pronouncer. -/
def declarations {σ ε : Type} (settings : Settings) (segmenter : Segmenter σ ε)
    (pronouncer : Pronouncer σ) : List (Declaration (Stage σ ε)) :=
  [.provider ⟨language, Tokenizer.name, .tokenizer, Tokenizer.capabilities,
      .inl (.new segmenter settings.tokenizerLimit settings.checkInterval)⟩,
    .provider ⟨language, Romanizer.name, .transliterator, Romanizer.capabilities,
      .inr (.new pronouncer settings.checkInterval)⟩,
    .chain chain] ++
  schemes.map (.scheme language) ++
  [.defaultScheme language settings.defaultScheme]

theorem parse?_parameter : ∀ scheme ∈ schemes, (Style.parse? scheme.parameter).isSome := by
  intro scheme h
  obtain ⟨⟨name, description, style⟩, -, rfl⟩ := List.mem_map.mp h
  simp [Style.parse?_name]

end Hanyu.Chinese
