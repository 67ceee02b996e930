import Adoc.Proofs.Json.RoundTrip
import Adoc.Proofs.Node.Spelling

/-! # Trees are decoded as they were encoded

The JSON value that is written for a tree is plain and describes the tree, so that reading its text
and decoding it gives the tree back. The one thing that can be too large is an offset, and what a
decoder gives has no such offsets.

* `isPlain_toJson`  nothing is lost in writing the value
* `isNode_toJson`   the value describes the tree
* `fits_of_isNode`  the numbers of a decoded tree fit 64 bits -/

namespace Adoc

namespace Node

mutual

/-- Do all the offsets and lengths in the tree fit 64 bits? -/
def Fits : Node → Prop
  | ⟨_, span, _, children⟩ =>
    (span.start < Nat.pow 2 64 ∧ span.len < Nat.pow 2 64) ∧ AllFit children

/-- Do all the offsets and lengths in the trees fit 64 bits? -/
def AllFit : List Node → Prop
  | [] => True
  | t :: ts => t.Fits ∧ AllFit ts

end

/-! ## What is written for a tree -/

/-- The value of a span has two numbers in it. -/
theorem isPlain_toJson_span (s : Span) : s.toJson.IsPlain :=
  ⟨⟨rfl, ⟨_, rfl⟩, rfl, ⟨_, rfl⟩, trivial⟩, rfl⟩

mutual

/-- The value of a tree has texts, spans and values of trees in it. -/
theorem isPlain_toJson : ∀ t : Node, t.toJson.IsPlain
  | ⟨_, span, _, []⟩ => ⟨⟨rfl, rfl, rfl, isPlain_toJson_span span, rfl, rfl, trivial⟩, rfl⟩
  | ⟨_, span, _, c :: cs⟩ =>
    ⟨⟨rfl, rfl, rfl, isPlain_toJson_span span, rfl, rfl, rfl,
      ⟨⟨isPlain_toJson c, arePlain_listToJson cs⟩, rfl⟩, trivial⟩, rfl⟩

/-- The same for the children of a tree. -/
theorem arePlain_listToJson : ∀ ts : List Node, Json.ArePlain (listToJson ts)
  | [] => trivial
  | t :: ts => ⟨isPlain_toJson t, arePlain_listToJson ts⟩

end

mutual

/-- The value that is written for a tree describes it, if its numbers can be read again. Of a leaf
there is no member for the children. -/
theorem isNode_toJson : ∀ {t : Node}, t.Fits → t.toJson.IsNode t
  | ⟨kind, span, text, []⟩, ⟨⟨start, len⟩, _⟩ =>
    .object (by simp [Json.FreeBesides, fieldNames, childrenMember])
      (.given (Json.isKind_name kind)) rfl (Span.isSpan_toJson start len) rfl .absent
  | ⟨kind, span, text, c :: cs⟩, ⟨⟨start, len⟩, first, others⟩ =>
    .object (by simp [Json.FreeBesides, fieldNames, childrenMember])
      (.given (Json.isKind_name kind)) rfl (Span.isSpan_toJson start len) rfl
      (.given (.cons (isNode_toJson first) (areNodes_listToJson others)))

/-- The same for the children of a tree. -/
theorem areNodes_listToJson : ∀ {ts : List Node}, AllFit ts → Json.AreNodes (listToJson ts) ts
  | [], _ => .nil
  | _ :: _, fits => .cons (isNode_toJson fits.1) (areNodes_listToJson fits.2)

end

/-! ## What is decoded -/

mutual

/-- A tree that a value describes has its numbers from there, where they are below 2^64. -/
theorem fits_of_isNode : ∀ {t : Node} {v : Json}, v.IsNode t → t.Fits
  | ⟨_, _, _, children⟩, _, is => by
    -- the children are given in the same way in an object and in an array
    have below : ∀ {vs}, Json.GiveChildren vs children → AllFit children := by
      intro vs give
      cases give with
      | absent => trivial
      | given are => exact allFit_of_areNodes are
    -- in both forms the numbers are those of a span
    obtain ⟨_, _, _, isSpan, _, give⟩ | ⟨_, isSpan, give⟩ := is <;>
      exact ⟨Span.lt_of_isSpan isSpan, below give⟩

/-- The same for the children of a tree. -/
theorem allFit_of_areNodes : ∀ {ts : List Node} {vs : List Json}, Json.AreNodes vs ts → AllFit ts
  | [], _, _ => trivial
  | _ :: _, _, are => by
    obtain _ | ⟨first, others⟩ := are
    exact ⟨fits_of_isNode first, allFit_of_areNodes others⟩

end

/-! ## Trees -/

/-- A tree comes back from its text. -/
theorem decode_encode {t : Node} (fits : t.Fits) : decode t.encode = .ok t := by
  -- the value comes back from its text, and it describes the tree
  refine decode_eq_ok_iff.mpr ⟨t.toJson, ?_, isNode_toJson fits⟩
  rw [encode, String.toList_ofList]
  exact Json.read_print (isPlain_toJson t)

/-- What was decoded from a text can be encoded without loss. -/
theorem fits_of_decode {text : String} {t : Node} (h : decode text = .ok t) : t.Fits := by
  obtain ⟨v, _, is⟩ := decode_eq_ok_iff.mp h
  exact fits_of_isNode is

/-- Encoding loses nothing: a tree comes back from its text, and so does whatever was decoded from
any text; trees with the same text are the same tree. -/
theorem decoding_undoes_encoding :
    (∀ t : Node, t.Fits → decode t.encode = .ok t) ∧
    (∀ text (t : Node), decode text = .ok t → decode t.encode = .ok t) ∧
    ∀ t t' : Node, t.Fits → t'.Fits → t.encode = t'.encode → t = t' := by
  refine ⟨fun t => decode_encode, fun text t h => decode_encode (fits_of_decode h), ?_⟩
  intro t t' fits fits' same
  -- both trees are what their common text is decoded as
  have back := decode_encode fits
  rw [same, decode_encode fits'] at back
  exact (Except.ok.inj back).symm

/-- A tree whose spans and texts have nothing to do with each other. -/
private def awkward : Node :=
  ⟨.unknown, ⟨Nat.pow 2 64 - 1, 7⟩, "\"\\\x01\n𝄞", [⟨.heading, ⟨0, Nat.pow 2 64 - 1⟩, "",
    [⟨.text, ⟨9, 0⟩, "/é", []⟩]⟩, ⟨.unknown, ⟨1, 1⟩, "null", []⟩]⟩

/-- It comes back, once and again. -/
theorem awkward_comes_back : awkward.Fits ∧ decode awkward.encode = .ok awkward := by
  have fits : awkward.Fits := by simp [awkward, Fits, AllFit]
  have back := decoding_undoes_encoding.1 awkward fits
  exact ⟨fits, decoding_undoes_encoding.2.1 awkward.encode awkward back⟩

end Node

end Adoc
