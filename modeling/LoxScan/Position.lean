/-
# `LoxScan.Position` — places in a text, by byte and by line

A text is a list of characters.  A place in it is the text before it, and what
is kept of that text is two numbers: how many UTF-8 bytes it takes, and one more
than the number of its newlines.  Both are sums over the characters, so moving
past two texts one after the other is moving past their concatenation
(`Position.after_append`): no other fact about places is used.
-/

namespace LoxScan

/-! ## Bytes -/

/-- The number of bytes a text takes in UTF-8. -/
def byteLength : List Char → Nat
  | [] => 0
  | c :: rest => c.utf8Size + byteLength rest

@[simp] theorem byteLength_nil : byteLength [] = 0 := rfl

@[simp] theorem byteLength_cons (c : Char) (text : List Char) :
    byteLength (c :: text) = c.utf8Size + byteLength text := rfl

@[simp] theorem byteLength_append (left right : List Char) :
    byteLength (left ++ right) = byteLength left + byteLength right := by
  induction left with
  | nil => simp
  | cons c left ih => simp [ih, Nat.add_assoc]

/-- Every character takes a byte, so only the empty text takes none. -/
theorem byteLength_pos {text : List Char} (nonempty : text ≠ []) : 0 < byteLength text := by
  cases text with
  | nil => exact absurd rfl nonempty
  | cons c text => have := c.utf8Size_pos; simp only [byteLength_cons]; omega

/-- The bytes of a string are the bytes of its characters. -/
theorem utf8ByteSize_ofList (text : List Char) :
    (String.ofList text).utf8ByteSize = byteLength text := by
  induction text with
  | nil => rfl
  | cons c text ih =>
    rw [← List.singleton_append, String.ofList_append, String.utf8ByteSize_append, ih,
      ← String.singleton_eq_ofList, String.utf8ByteSize_singleton]
    rfl

/-! ## Spans and positions -/

/-- A stretch of a text: the byte offsets of its first byte and of the first byte after it. -/
structure Span where
  start : Nat
  stop : Nat
deriving DecidableEq

/-- A place between two characters of a text: its byte offset and its line, counted from one. -/
structure Position where
  offset : Nat
  line : Nat
deriving DecidableEq

namespace Position

/-- The place before the first character. -/
def start : Position := ⟨0, 1⟩

/-- The place reached from `p` by moving past a text; only `\n` begins a new line. -/
def after (p : Position) (text : List Char) : Position :=
  ⟨p.offset + byteLength text, p.line + text.count '\n'⟩

/-- The stretch that a text beginning at `p` takes. -/
def spanOf (p : Position) (text : List Char) : Span :=
  ⟨p.offset, (p.after text).offset⟩

@[simp] theorem after_nil (p : Position) : p.after [] = p := rfl

@[simp] theorem after_append (p : Position) (left right : List Char) :
    p.after (left ++ right) = (p.after left).after right := by
  simp [after, Nat.add_assoc]

end Position

end LoxScan
