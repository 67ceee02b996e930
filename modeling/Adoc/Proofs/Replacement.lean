import Adoc.Proofs.CheckableText
import Adoc.Proofs.Leaves

/-! # Replacing characters moves nothing

Replacements are done one character at a time, and a character is recorded with the bytes that it
took before it was replaced. So a text with replacements is the text without them, every character
replaced, and says the same of where its characters stand, however many bytes the new ones take.

* `glyphs_mapChars`      other characters in the same places: what becomes of the glyphs
* `extract_eq_mapChars`  replacing may be put off until a unit is extracted
* `keep?_mapChars`       and until a program has kept what it keeps of the places
* `map_applyAll`         a text is replaced in one go or one replacement after the other -/

namespace Adoc

/-- The strategy with `rules` for the replacements in every unit, in place of its own. -/
def Strategy.withReplacements (s : Strategy) (rules : List CharReplacement) : Strategy :=
  { s with replacements := fun _ => rules }

namespace CharReplacement

/-- The replacements are done one after the other, each on the whole text. -/
theorem map_applyAll (rules : List CharReplacement) (text : String) :
    text.map (applyAll rules) = rules.foldl (fun text r => text.map r.apply) text := by
  induction rules generalizing text with
  | nil => exact String.map_id
  | cons r rules ih => rw [List.foldl_cons, ← ih, String.map_map]; rfl

end CharReplacement

namespace CheckableText

/-! ## Other characters in the same places -/

/-- The text with other characters in the same places. -/
def mapChars (t : CheckableText) (f : Char → Char) : CheckableText :=
  { t with text := t.text.map f }

variable {t : CheckableText}

/-- Twice other characters are other characters once. -/
theorem mapChars_mapChars (t : CheckableText) (f g : Char → Char) :
    (t.mapChars f).mapChars g = t.mapChars (g ∘ f) := by
  rw [mapChars, mapChars, String.map_map]
  rfl

/-- For each character there is another one, so that a text stays in step with its spans. -/
theorem InStep.mapChars (h : t.InStep) (f : Char → Char) : (t.mapChars f).InStep := by
  rw [InStep, CheckableText.mapChars, String.length_map, h]

/-- Each glyph has another character. -/
theorem glyphs_mapChars (t : CheckableText) (f : Char → Char) :
    (t.mapChars f).glyphs = t.glyphs.map (·.mapChar f) := by
  rw [glyphs, glyphs, mapChars, String.toList_map, List.zip_map_left, List.map_map, List.map_map]
  rfl

/-- What a program keeps of the places does not depend on the characters. -/
theorem keep?_mapChars (t : CheckableText) (f : Char → Char) (o : Overflow) :
    (t.mapChars f).keep? o = (t.keep? o).map (·.mapChars f) := by
  rw [keep?, keep?, Option.map_map]
  rfl

/-! ## Extraction -/

/-- The glyphs of a text with replacements: those without, each replaced in its place. -/
theorem charGlyphs_eq_map_mapChar (replace : Char → Char) (hidden : Nat → Bool) (i offset : Nat)
    (cs : List Char) :
    charGlyphs replace hidden i offset cs =
      (charGlyphs id hidden i offset cs).map (·.mapChar replace) := by
  -- both are the characters that are not hidden, each placed before it is replaced
  rw [charGlyphs_eq_map_filter, charGlyphs_eq_map_filter, List.map_map]
  rfl

/-- What a strategy extracts from a unit is what it would extract without replacements, with its
replacements for the unit done afterwards. -/
theorem extract_eq_mapChars (s : Strategy) (root : Site) :
    extract s root = (extract (s.withReplacements []) root).mapChars
      (CharReplacement.applyAll (s.replacements root)) := by
  have leaf : ∀ leaf ∈ s.leaves root, leafGlyphs s (s.replacements root) leaf =
      (leafGlyphs (s.withReplacements []) [] leaf).map
        (·.mapChar (CharReplacement.applyAll (s.replacements root))) :=
    fun leaf _ => charGlyphs_eq_map_mapChar ..
  have leaves : (s.withReplacements []).leaves root = s.leaves root := Strategy.leaves_congr rfl
  -- texts that are in step with their spans are equal if their glyphs are
  refine (inStep_extract s root).ext ((inStep_extract _ root).mapChars _) ?_ ?_
  · exact (rootSpan_extract s root).trans (rootSpan_extract _ root).symm
  · rw [glyphs_mapChars, glyphs_extract, glyphs_extract, leaves, List.map_flatMap,
      List.flatMap_congr leaf]
    rfl

/-- With any rules a unit is extracted without them first, and put through them afterwards. -/
theorem extract_withReplacements (s : Strategy) (rules : List CharReplacement) (root : Site) :
    extract (s.withReplacements rules) root =
      (extract (s.withReplacements []) root).mapChars (CharReplacement.applyAll rules) :=
  extract_eq_mapChars (s.withReplacements rules) root

/-- More rules are done after those before them. -/
theorem extract_withReplacements_append (s : Strategy) (rules rules' : List CharReplacement)
    (root : Site) :
    extract (s.withReplacements (rules ++ rules')) root =
      (extract (s.withReplacements rules) root).mapChars (CharReplacement.applyAll rules') := by
  -- on a single character the rules are done in their order
  have all : CharReplacement.applyAll (rules ++ rules') =
      CharReplacement.applyAll rules' ∘ CharReplacement.applyAll rules :=
    funext (CharReplacement.applyAll_append rules rules')
  rw [extract_withReplacements, all, ← mapChars_mapChars, ← extract_withReplacements]

/-- Replacing characters commutes with extracting them and never moves an offset. With any rules the
text of a unit is the text without rules, every character put through the rules, each of which is
done on the result of the one before; the root, the number of characters, the offset of each and the
span of each range of them are the same. Rules that follow others are done on the text which those
make, and what a strategy extracts is what it extracts with its own rules for the unit. The same
goes for what a program keeps of the text, and says of its ranges. -/
theorem replacing_commutes_with_extraction (s : Strategy) (root : Site)
    (rules : List CharReplacement) :
    let raw := extract (s.withReplacements []) root
    let t := extract (s.withReplacements rules) root
    t.text = raw.text.map (CharReplacement.applyAll rules) ∧
    t.text = rules.foldl (fun text r => text.map r.apply) raw.text ∧
    t.rootSpan = raw.rootSpan ∧
    t.text.length = raw.text.length ∧
    (∀ i, t.documentOffset? i = raw.documentOffset? i) ∧
    (∀ first last, t.documentSpan? ⟨first, last⟩ = raw.documentSpan? ⟨first, last⟩) ∧
    (∀ rules', (extract (s.withReplacements (rules ++ rules')) root).text =
      t.text.map (CharReplacement.applyAll rules')) ∧
    extract s root = extract (s.withReplacements (s.replacements root)) root ∧
    ∀ o : Overflow,
      extract? o (s.withReplacements rules) root =
        (extract? o (s.withReplacements []) root).map
          (·.mapChars (CharReplacement.applyAll rules)) ∧
      ∀ chars, t.keptSpan? o chars = raw.keptSpan? o chars := by
  intro raw t
  -- both texts have the same spans, and all that is said of places depends on the spans alone
  have mapped : t = raw.mapChars (CharReplacement.applyAll rules) :=
    extract_withReplacements s rules root
  have text : t.text = raw.text.map (CharReplacement.applyAll rules) := by
    rw [mapped]
    rfl
  have spans : t.spans = raw.spans := by
    rw [mapped]
    rfl
  refine ⟨text, ?rules, ?root, ?chars, ?offsets, ?ranges, ?append, ?own, ?program⟩
  case rules => rw [text, CharReplacement.map_applyAll]
  case root => rw [mapped, mapChars]
  case chars => rw [text, String.length_map]
  case offsets =>
    intro i
    rw [documentOffset?, documentOffset?, spans]
  case ranges =>
    intro first last
    rw [documentSpan?, documentSpan?, spans]
  case append =>
    intro rules'
    rw [extract_withReplacements_append]
    rfl
  -- the strategy's own rules are put off like any others
  case own => rw [extract_withReplacements, ← extract_eq_mapChars]
  case program =>
    intro o
    refine ⟨?_, fun chars => by rw [keptSpan?, keptSpan?, spans]⟩
    rw [extract?, extract?, extract_withReplacements, keep?_mapChars]

/-- The character behind one that was replaced, and by a shorter one, stands where it did. -/
example :
    let t := extract (Strategy.plain.withReplacements [⟨'é', 'e'⟩, ⟨'e', 'a'⟩])
      (.root (.token .text 0 "éb"))
    t.text = "ab" ∧ t.documentOffset? 1 = some 2 := by decide

end CheckableText

end Adoc
