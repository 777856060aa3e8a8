/-!
# White space

A blank is a character with the Unicode property White_Space. Trimming removes the blanks
at both ends of a text and keeps those inside it.
-/

namespace RecordFilter.Text

/-- The twenty-five characters with the Unicode property White_Space. -/
def isBlank (c : Char) : Bool :=
  let code := c.toNat
  (9 ≤ code && code ≤ 13) || code = 0x20 || code = 0x85 || code = 0xA0 || code = 0x1680 ||
    (0x2000 ≤ code && code ≤ 0x200A) || code = 0x2028 || code = 0x2029 || code = 0x202F ||
    code = 0x205F || code = 0x3000

def trimStart (text : List Char) : List Char :=
  text.dropWhile isBlank

def trimEnd (text : List Char) : List Char :=
  (text.reverse.dropWhile isBlank).reverse

def trimChars (text : List Char) : List Char :=
  trimEnd (trimStart text)

def trim (text : String) : String :=
  String.ofList (trimChars text.toList)

theorem toList_trim (text : String) :
    (trim text).toList = trimChars text.toList := by
  simp [trim]

theorem trimStart_cons_of_not_blank
    {head : Char} {tail : List Char} (notBlank : isBlank head = false) :
    trimStart (head :: tail) = head :: tail := by
  simp [trimStart, List.dropWhile, notBlank]

theorem trimStart_append_of_blank
    {padding text : List Char} (blank : ∀ c ∈ padding, isBlank c = true) :
    trimStart (padding ++ text) = trimStart text := by
  induction padding with
  | nil => rfl
  | cons head tail inductionHypothesis =>
      have headBlank : isBlank head = true := blank head (List.mem_cons_self ..)
      have tailBlank : ∀ c ∈ tail, isBlank c = true := fun c member =>
        blank c (List.mem_cons_of_mem head member)
      simpa [trimStart, List.dropWhile, headBlank] using inductionHypothesis tailBlank

theorem trimEnd_eq_reverse (text : List Char) :
    trimEnd text = (trimStart text.reverse).reverse := rfl

end RecordFilter.Text
