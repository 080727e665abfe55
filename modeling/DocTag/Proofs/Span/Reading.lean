import DocTag.Proofs.Text.Encoding
import DocTag.Span

/-!
# Reading spans

A span that is laid over a text, behind the bytes of what comes before it, reads that text back
(`sourceText_covering`): both its ends lie between characters, whatever surrounds the text.
-/

namespace DocTag.Span

/-- An offset that is not negative stands for itself, as far as there are bytes. -/
theorem place_natCast (length n : Nat) : place length (n : Int) = min n length := by
  rw [place, if_neg (by omega), Int.toNat_natCast]

theorem slice_covering (before t after : Text) :
    (covering t (Text.byteLength before)).slice (Utf8.encode (before ++ t ++ after)) =
      Utf8.encode t := by
  have hstop : Text.byteLength before + Text.byteLength t = Text.byteLength (before ++ t) :=
    (Text.byteLength_append before t).symm
  have htotal : (Utf8.encode (before ++ t ++ after)).length =
      Text.byteLength (before ++ t) + Text.byteLength after := by
    rw [Text.length_encode, Text.byteLength_append]
  simp only [slice, covering, ← Int.natCast_add, hstop, place_natCast]
  rw [htotal, Nat.min_eq_left (by omega), Nat.min_eq_left (by omega), Utf8.drop_take_encode]

/-- **A span laid over a text reads that text back**, whatever comes before and after it. -/
theorem sourceText_covering (before t after : Text) :
    (covering t (Text.byteLength before)).sourceText (before ++ t ++ after) = .ok t := by
  rw [sourceText, slice_covering, Utf8.decode_encode]

end DocTag.Span
