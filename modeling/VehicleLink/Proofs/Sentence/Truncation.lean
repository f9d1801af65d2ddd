import VehicleLink.Proofs.Bytes.Page
import VehicleLink.Proofs.Sentence.Canonical

/-!
# Proofs/Sentence/Truncation — a sentence in a buffer that may be too short

`lineText` is the whole line of a sentence as a text.  Whatever the size of a buffer, writing the
sentence leaves a leading part of that line in it, and the rest of the buffer as it was
(`sentence_cut_to_buffer`).

A sentence is written in place, by many small writes (`writeOn`).  How the text of a column is cut
into writes makes no difference, as a page that has dropped anything is full for good.  The checksum
is taken of what has been written, so it is the wrong one exactly when no digit of it finds room.
-/

namespace VehicleLink

/-! ## The line as a text -/

/-- The capital digit of a number below sixteen. -/
def hexDigit (n : Nat) : Char := "0123456789ABCDEF".toList.getD n '0'

theorem utf8EncodeChar_hexDigit {n : Nat} (h : n < 16) :
    String.utf8EncodeChar (hexDigit n) = [Hex.upperDigit n] := by
  revert h
  revert n
  decide

namespace SentenceType

variable (type : SentenceType) (talker : String) (sentence : type.Sentence)

/-- The text between the start character and the star. -/
def coveredText : String := talker ++ type.id ++ "," ++ commaJoin (texts sentence)

/-- The whole line: the text that the checksum covers between a dollar sign and a star, the two digits
of the exclusive or of its bytes, and a line break. -/
def lineText : String :=
  let covered := type.coveredText talker sentence
  let sum := ((utf8 covered).foldl (· ^^^ ·) 0).toNat
  "$" ++ covered ++ "*" ++ String.ofList [hexDigit (sum / 16), hexDigit (sum % 16)] ++ "\r\n"

theorem utf8_coveredText :
    utf8 (type.coveredText talker sentence) = type.bodyBytes talker sentence := by
  have hcomma : utf8 "," = [0x2C] := rfl
  rw [coveredText, utf8_append, utf8_append, utf8_append, utf8_commaJoin, hcomma, bodyBytes,
    List.append_assoc]
  rfl

theorem utf8_digits (sum : UInt8) :
    utf8 (String.ofList [hexDigit (sum.toNat / 16), hexDigit (sum.toNat % 16)])
      = [(Checksum.digits sum).1, (Checksum.digits sum).2] := by
  have hlt := sum.toNat_lt
  rw [utf8_ofList, List.flatMap_cons, List.flatMap_singleton, utf8EncodeChar_hexDigit (by omega),
    utf8EncodeChar_hexDigit (by omega)]
  rfl

theorem utf8_lineText : utf8 (type.lineText talker sentence) = type.fullBytes talker sentence := by
  have hdollar : utf8 "$" = [0x24] := rfl
  have hstar : utf8 "*" = [0x2A] := rfl
  have hbreak : utf8 "\r\n" = [0x0D, 0x0A] := rfl
  rw [lineText, utf8_append, utf8_append, utf8_append, utf8_append, utf8_digits, utf8_coveredText,
    hdollar, hstar, hbreak, fullBytes, List.append_assoc, List.append_assoc]
  rfl

end SentenceType

/-! ## Writing in place -/

/-- A page in the middle of a sentence, and how many columns it has taken. -/
structure PageWriter where
  page : Page
  count : Nat

namespace PageWriter

/-- Writes a column in pieces, after a comma unless it is the first. -/
def put (writer : PageWriter) (pieces : List (List UInt8)) : PageWriter where
  page := pieces.foldl Page.write (if 0 < writer.count then writer.page.put 0x2C else writer.page)
  count := writer.count + 1

/-- The columns behind the first have a comma in front of each. -/
theorem foldl_put_holds {writer : PageWriter} {origin stream : List UInt8}
    (h : writer.page.Holds origin stream) (hcount : 0 < writer.count)
    (columns : List (List (List UInt8))) :
    (columns.foldl put writer).page.Holds origin
      (stream ++ (columns.map List.flatten).flatMap (0x2C :: ·)) := by
  induction columns generalizing writer stream with
  | nil => rwa [List.map_nil, List.flatMap_nil, List.append_nil]
  | cons pieces columns ih =>
    have hput : (writer.put pieces).page.Holds origin (stream ++ [0x2C] ++ pieces.flatten) := by
      rw [put, if_pos hcount]
      exact (h.put 0x2C).foldl_write pieces
    have hrest := ih hput (Nat.succ_pos _)
    rwa [List.append_assoc, List.append_assoc] at hrest

theorem columns_hold {page : Page} {origin stream : List UInt8} (h : page.Holds origin stream)
    (columns : List (List (List UInt8))) :
    (columns.foldl put ⟨page, 0⟩).page.Holds origin
      (stream ++ [0x2C].intercalate (columns.map List.flatten)) := by
  cases columns with
  | nil => rwa [List.map_nil, List.intercalate_nil, List.append_nil]
  | cons pieces columns =>
    have hput : (put ⟨page, 0⟩ pieces).page.Holds origin (stream ++ pieces.flatten) := by
      rw [put, if_neg (Nat.lt_irrefl 0)]
      exact h.foldl_write pieces
    have hrest := foldl_put_holds hput (Nat.succ_pos _) columns
    rwa [List.append_assoc, ← intercalate_comma] at hrest

end PageWriter

namespace Page

/-- Writes the star, the digits of the checksum of what is on the page, and the line break. -/
def writeEnding (page : Page) : Page :=
  let (high, low) := Checksum.digits (Checksum.ofBytes (page.written.drop 1))
  ((page.put 0x2A).write [high, low]).write [0x0D, 0x0A]

/-- **The ending has the checksum of the whole body**, as far as there is room for it: where the body
is cut, nothing of the ending is written. -/
theorem Holds.writeEnding {page : Page} {origin body : List UInt8}
    (h : page.Holds origin (0x24 :: body)) :
    page.writeEnding.Holds origin (0x24 :: body ++ [0x2A, (Checksum.digits (Checksum.ofBytes body)).1,
      (Checksum.digits (Checksum.ofBytes body)).2, 0x0D, 0x0A]) := by
  have hline (digits : UInt8 × UInt8) :=
    ((h.put 0x2A).write [digits.1, digits.2]).write [0x0D, 0x0A]
  have hwritten := h.written
  rcases Nat.lt_or_ge origin.length (0x24 :: body).length with hcut | hroom
  · refine (hline (Checksum.digits (Checksum.ofBytes (page.written.drop 1)))).of_take_eq ?_ ?_
    · simp only [List.length_append, List.length_cons, List.length_nil]
    simp only [List.append_assoc]
    rw [List.take_append_of_le_length (Nat.le_of_lt hcut),
      List.take_append_of_le_length (Nat.le_of_lt hcut)]
  · rw [List.take_of_length_le hroom] at hwritten
    have hsum : page.written.drop 1 = body := by rw [hwritten, List.drop_one, List.tail_cons]
    rw [Page.writeEnding, hsum]
    have hwhole := hline (Checksum.digits (Checksum.ofBytes body))
    simp only [List.append_assoc] at hwhole
    exact hwhole

end Page

namespace SentenceType

/-- Writes a sentence on a page, the text of each column in pieces. -/
def writeOn (type : SentenceType) (talker : String) (columns : List (List (List UInt8)))
    (page : Page) : Page :=
  let page := (((page.put 0x24).write (utf8 talker)).write (utf8 type.id)).put 0x2C
  (columns.foldl PageWriter.put ⟨page, 0⟩).page.writeEnding

variable {type : SentenceType} {sentence : type.Sentence}

/-- **Writing in place leaves a leading part of the whole line.** -/
theorem writeOn_holds {columns : List (List (List UInt8))}
    (hcolumns : columns.map List.flatten = (texts sentence).map utf8) (talker : String)
    (origin : List UInt8) :
    (type.writeOn talker columns (.blank origin)).Holds origin
      (type.fullBytes talker sentence) := by
  have hstart := (((Page.holds_blank origin).put 0x24).write (utf8 talker)).write (utf8 type.id)
  have hbody := PageWriter.columns_hold (hstart.put 0x2C) columns
  have hstream : [] ++ [0x24] ++ utf8 talker ++ utf8 type.id ++ [0x2C]
      ++ [0x2C].intercalate (columns.map List.flatten)
      = 0x24 :: type.bodyBytes talker sentence := by
    rw [hcolumns, bodyBytes]
    simp only [List.nil_append, List.cons_append, List.append_assoc]
  rw [hstream] at hbody
  exact hbody.writeEnding

/-- **A sentence is cut to the size of its buffer.**

For any columns and any buffer, the answer is the length of the whole line, or that of the buffer if
it is shorter.  So many bytes of the line stand at the start of the buffer, and behind them the buffer
is as it was.  Writing in place leaves the same, however the text of each column is cut into writes,
and tells whether anything was lost.  The checksum is taken of what has been written; if even one
digit of it finds room, that is the whole body. -/
theorem sentence_cut_to_buffer (type : SentenceType) (talker : String) (sentence : type.Sentence)
    (buffer : List UInt8) :
    let line := utf8 (type.lineText talker sentence)
    let covered := utf8 (type.coveredText talker sentence)
    let count := min buffer.length line.length
    type.write talker sentence buffer = (count, line.take count ++ buffer.drop count) ∧
    (∀ columns : List (List (List UInt8)), columns.map List.flatten = (texts sentence).map utf8 →
      let page := type.writeOn talker columns (.blank buffer)
      (page.filled, page.buffer) = (count, line.take count ++ buffer.drop count) ∧
        page.lost = decide (buffer.length < line.length)) ∧
    (covered.length + 2 < count →
      Checksum.ofBytes ((type.writeFields talker sentence buffer.length).sink.written.drop 1)
        = covered.foldl (· ^^^ ·) 0) := by
  intro line covered count
  have hline : line = type.fullBytes talker sentence := type.utf8_lineText talker sentence
  have hcovered : covered = type.bodyBytes talker sentence := type.utf8_coveredText talker sentence
  refine ⟨?_, fun columns hcolumns => ?_, fun hdigit => ?_⟩
  · have hbytes : type.bytes talker sentence buffer.length = line.take count := by
      rw [bytes_eq_take, ← hline, List.take_eq_take_min]
    have hlength : (line.take count).length = count :=
      List.length_take_of_le (Nat.min_le_right ..)
    rw [write, hbytes, overwrite_zero, hlength]
  · have hpage := writeOn_holds hcolumns talker buffer
    rw [← hline] at hpage
    exact ⟨Prod.ext hpage.filled (hpage.filled ▸ hpage.buffer_eq), hpage.lost⟩
  · have hroom : (0x24 :: covered).length ≤ buffer.length := by
      rw [List.length_cons]
      omega
    rw [sink_writeFields, Sink.written_push_empty, ← hcovered, List.take_of_length_le hroom]
    rfl

/-- A rate of turn, and that it is valid. -/
def steadyTurn : SentenceType.rot.Sentence :=
  .cons (some (⟨0x41200000⟩ : Binary .single)) (.cons (some Status.active) .nil)

/-- A buffer with room for one of the two digits, and a number written in three pieces. -/
theorem sentence_cut_to_buffer_steadyTurn :
    let buffer : List UInt8 := List.replicate 15 0xAA
    let columns : List (List (List UInt8)) := [[utf8 "1", utf8 "0.", utf8 "0"], [utf8 "A"]]
    (columns.map List.flatten = (texts steadyTurn).map utf8 ∧
      (utf8 (SentenceType.rot.coveredText "HE" steadyTurn)).length + 2 < 15) ∧
    SentenceType.rot.write "HE" steadyTurn buffer = (15, utf8 "$HEROT,10.0,A*1") ∧
    (SentenceType.rot.writeOn "HE" columns (.blank buffer)).lost = true ∧
    Checksum.ofBytes ((SentenceType.rot.writeFields "HE" steadyTurn 15).sink.written.drop 1)
      = 0x1A := by
  intro buffer columns
  have hcolumns : columns.map List.flatten = (texts steadyTurn).map utf8 := by decide +kernel
  have hdigit : (utf8 (SentenceType.rot.coveredText "HE" steadyTurn)).length + 2 < 15 := by
    decide +kernel
  have hline : utf8 (SentenceType.rot.lineText "HE" steadyTurn) = utf8 "$HEROT,10.0,A*1A\r\n" := by
    decide +kernel
  obtain ⟨hwrite, hplace, hsum⟩ :=
    sentence_cut_to_buffer SentenceType.rot "HE" steadyTurn buffer
  refine ⟨⟨hcolumns, hdigit⟩, ?_, ?_, ?_⟩
  · rw [hwrite, hline]
    rfl
  · rw [(hplace columns hcolumns).2, hline]
    rfl
  · refine (hsum ?_).trans ?_
    · rw [hline]
      exact hdigit
    · decide +kernel

end SentenceType

end VehicleLink
