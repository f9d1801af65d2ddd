import VehicleLink.Proofs.Sentence.Link

/-!
# Proofs/Sentence/Corruption — damage to one byte of a sentence

A line that is accepted is no longer accepted once one byte of its body, or one of its two digits, is
another.  It causes one error, and what follows it is read as if it had not been there
(`damaged_line_refused`).

A changed byte changes the exclusive or, unless it is a star or a line feed: then it ends the body
early.  Behind a star that stands too early, a line feed would have to be the fourth byte, but the
first line feed there is that of the line itself, and it comes later (`ending_refused`).  Neither the
room for a body nor the way a body is cut plays a part.
-/

namespace VehicleLink

/-! ## The checksum of damaged bytes -/

namespace Checksum

theorem foldl_xor_injective (bytes : List UInt8) :
    Function.Injective fun sum : UInt8 => bytes.foldl (· ^^^ ·) sum := by
  induction bytes with
  | nil => exact fun _ _ h => h
  | cons byte bytes ih => exact fun _ _ h => (UInt8.xor_left_inj byte).mp (ih h)

/-- **No other byte in the same place gives the same checksum.** -/
theorem byte_unique {front back : List UInt8} {byte other : UInt8}
    (h : (front ++ other :: back).foldl (· ^^^ ·) 0 = (front ++ byte :: back).foldl (· ^^^ ·) 0) :
    other = byte := by
  rw [List.foldl_append, List.foldl_append, List.foldl_cons, List.foldl_cons] at h
  exact (UInt8.xor_right_inj _).mp (foldl_xor_injective back h)

theorem ofDigits_eq_ok_iff {high low sum : UInt8} :
    ofDigits (high, low) = .ok sum ↔
      ∃ h l, Hex.digitValue? high = some h ∧ Hex.digitValue? low = some l ∧
        UInt8.ofNat (16 * h + l) = sum := by
  rw [ofDigits]
  split
  · next h l hhigh hlow => simp [hhigh, hlow]
  · next hnone =>
    refine iff_of_false (fun h => by cases h) ?_
    rintro ⟨h, l, hhigh, hlow, -⟩
    exact hnone h l hhigh hlow

/-- **Two spellings of one checksum have the same digits**, in either case. -/
theorem digitValue?_eq_of_ofDigits {high low high' low' sum : UInt8}
    (h : ofDigits (high, low) = .ok sum) (h' : ofDigits (high', low') = .ok sum) :
    Hex.digitValue? high' = Hex.digitValue? high ∧ Hex.digitValue? low' = Hex.digitValue? low := by
  obtain ⟨m, n, hm, hn, hsum⟩ := ofDigits_eq_ok_iff.mp h
  obtain ⟨m', n', hm', hn', hsum'⟩ := ofDigits_eq_ok_iff.mp h'
  have hvalue := congrArg UInt8.toNat (hsum'.trans hsum.symm)
  rw [UInt8.toNat_ofNat', UInt8.toNat_ofNat'] at hvalue
  have := Hex.digitValue?_lt hm
  have := Hex.digitValue?_lt hn
  have := Hex.digitValue?_lt hm'
  have := Hex.digitValue?_lt hn'
  rw [hm, hm', hn, hn']
  exact ⟨congrArg some (by omega), congrArg some (by omega)⟩

end Checksum

namespace Sentence

/-! ## What is accepted -/

theorem ofDigits_of_verdict {body : List UInt8} {high low : UInt8} {raw : RawSentence}
    (h : verdict body high low = .ok raw) :
    Checksum.ofDigits (high, low) = .ok (body.foldl (· ^^^ ·) 0) := by
  rw [verdict, ← digitValue?_eq_digit?, ← digitValue?_eq_digit?] at h
  split at h
  · next m n hm hn =>
    refine Checksum.ofDigits_eq_ok_iff.mpr ⟨m, n, hm, hn, ?_⟩
    by_contra hne
    rw [if_pos hne] at h
    cases h
  · cases h

/-- Digits that do not spell the checksum are refused, whatever the body is. -/
theorem exists_error_of_ofDigits {body : List UInt8} {high low : UInt8}
    (h : Checksum.ofDigits (high, low) ≠ .ok (body.foldl (· ^^^ ·) 0)) :
    ∃ error, verdict body high low = .error error := by
  cases hverdict : verdict body high low with
  | error error => exact ⟨error, rfl⟩
  | ok raw => exact absurd (ofDigits_of_verdict hverdict) h

theorem ending_eq_ok {body tail : List UInt8} {taken : Nat} {raw : RawSentence}
    (h : ending body tail = some (taken, .ok raw)) :
    ∃ high low after, tail = high :: low :: 0x0D :: 0x0A :: after ∧ taken = 4 ∧
      verdict body high low = .ok raw := by
  match tail with
  | [] => cases h
  | [_] => cases h
  | [_, _] => cases h
  | high :: low :: carriageReturn :: tail =>
    by_cases hreturn : carriageReturn = 0x0D
    · subst hreturn
      cases tail with
      | nil => cases h
      | cons lineFeed after =>
        rw [ending_lineFeed] at h
        by_cases hfeed : lineFeed = 0x0A
        · subst hfeed
          rw [if_pos rfl] at h
          obtain ⟨htaken, hverdict⟩ := Prod.mk.inj (Option.some.inj h)
          exact ⟨high, low, after, rfl, htaken.symm, hverdict⟩
        · rw [if_neg hfeed] at h
          cases h
    · rw [ending_carriageReturn hreturn] at h
      cases h

/-- A stream goes on as a body up to its end, a line feed or a star. -/
theorem exists_body (bytes : List UInt8) :
    ∃ body tail, bytes = body ++ tail ∧ (∀ byte ∈ body, isBody byte) ∧
      (tail = [] ∨ ∃ after, tail = 0x0A :: after ∨ tail = 0x2A :: after) := by
  induction bytes with
  | nil => exact ⟨[], [], rfl, nofun, .inl rfl⟩
  | cons byte bytes ih =>
    cases hbyte : isBody byte with
    | true =>
      obtain ⟨body, tail, rfl, hbody, htail⟩ := ih
      exact ⟨byte :: body, tail, rfl, List.forall_mem_cons.mpr ⟨hbyte, hbody⟩, htail⟩
    | false =>
      refine ⟨[], byte :: bytes, rfl, nofun, .inr ⟨bytes, ?_⟩⟩
      rcases isBody_eq_false_iff.mp hbyte with rfl | rfl
      · exact .inr rfl
      · exact .inl rfl

/-- **The first event is a sentence only at the end of a whole line.** -/
theorem firstEvent_eq_ok {config : Config} {bytes : List UInt8} {taken : Nat} {raw : RawSentence}
    (h : firstEvent config bytes = some (taken, .ok raw)) :
    ∃ body high low after, bytes = body ++ 0x2A :: high :: low :: 0x0D :: 0x0A :: after ∧
      taken = body.length + 5 ∧ (∀ byte ∈ body, isBody byte) ∧ body.length ≤ config.capacity ∧
      verdict body high low = .ok raw := by
  obtain ⟨body, tail, rfl, hbody, htail⟩ := exists_body bytes
  rcases Nat.lt_or_ge config.capacity body.length with hfull | hroom
  · rw [firstEvent_of_full hbody hfull] at h
    cases h
  obtain rfl | ⟨after, rfl | rfl⟩ := htail
  · rw [List.append_nil, firstEvent_body hbody hroom] at h
    cases h
  · rw [firstEvent_lineFeed hbody hroom] at h
    cases h
  · rw [firstEvent_star hbody hroom, Option.map_eq_some_iff] at h
    obtain ⟨⟨count, event⟩, hending, htaken⟩ := h
    obtain ⟨rfl, rfl⟩ := Prod.mk.inj htaken
    obtain ⟨high, low, after', rfl, rfl, hverdict⟩ := ending_eq_ok hending
    exact ⟨body, high, low, after', rfl, rfl, hbody, hroom, hverdict⟩

/-! ## Lines and damage -/

/-- The bytes that a line consists of, between its fixed ones. -/
structure Line where
  start : UInt8
  body : List UInt8
  high : UInt8
  low : UInt8

namespace Line

/-- What follows the start character. -/
def rest (line : Line) : List UInt8 := line.body ++ [0x2A, line.high, line.low, 0x0D, 0x0A]

/-- The whole line. -/
def bytes (line : Line) : List UInt8 := line.start :: line.rest

/-- **Damage to one byte**: a byte of the body becomes any other one, or one of the two digits becomes
a byte that does not spell the same digit. -/
inductive Damaged : Line → Line → Prop where
  | body {start high low : UInt8} (front back : List UInt8) {old new : UInt8} (hne : new ≠ old) :
    Damaged ⟨start, front ++ old :: back, high, low⟩ ⟨start, front ++ new :: back, high, low⟩
  | high {start low : UInt8} {body : List UInt8} {old new : UInt8}
    (hne : Hex.digitValue? new ≠ Hex.digitValue? old) :
    Damaged ⟨start, body, old, low⟩ ⟨start, body, new, low⟩
  | low {start high : UInt8} {body : List UInt8} {old new : UInt8}
    (hne : Hex.digitValue? new ≠ Hex.digitValue? old) :
    Damaged ⟨start, body, high, old⟩ ⟨start, body, high, new⟩

/-- What a line has that is accepted. -/
structure Sound (config : Config) (line : Line) : Prop where
  start : line.start ∈ config.starts
  isBody : ∀ byte ∈ line.body, isBody byte
  room : line.body.length ≤ config.capacity
  sum : Checksum.ofDigits (line.high, line.low) = .ok (line.body.foldl (· ^^^ ·) 0)

variable {config : Config} {line damaged : Line}

/-- **A line that is reported at its last byte is sound.** -/
theorem sound_of_reported (hquiet : Quiet config line.rest) {place : Nat} {raw : RawSentence}
    (h : (place + line.rest.length, .ok raw) ∈ grammar config place line.bytes) :
    line.Sound config := by
  have hskip (place : Nat) {bytes : List UInt8} (hbytes : Quiet config bytes) :
      grammar config place bytes = [] :=
    (skips_of_quiet hbytes).alone _ (grammar_nil config) place
  by_cases hstart : line.start ∈ config.starts
  · cases hfirst : firstEvent config line.rest with
    | none =>
      rw [bytes, grammar_unfinished hstart hfirst] at h
      cases h
    | some first =>
      obtain ⟨taken, event⟩ := first
      have hdrop : Quiet config (line.rest.drop taken) :=
        fun byte hbyte => hquiet byte (List.mem_of_mem_drop hbyte)
      rw [bytes, grammar_event hstart hfirst, hskip _ hdrop, List.mem_singleton] at h
      obtain ⟨hplace, rfl⟩ := Prod.mk.inj h
      obtain ⟨body, high, low, after, hrest, rfl, hbody, hroom, hverdict⟩ := firstEvent_eq_ok hfirst
      have hlength := congrArg List.length hrest
      simp only [List.length_append, List.length_cons] at hlength
      have hafter : after = [] := List.length_eq_zero_iff.mp (by omega)
      subst hafter
      obtain ⟨rfl, hending⟩ := List.append_inj' hrest rfl
      simp only [List.cons.injEq, true_and, and_true] at hending
      obtain ⟨rfl, rfl⟩ := hending
      exact ⟨hstart, hbody, hroom, ofDigits_of_verdict hverdict⟩
  · rw [bytes, grammar_skip hstart, hskip _ hquiet] at h
    cases h

/-- The only line feed of a sound line is its last byte. -/
theorem Sound.lineFeed_not_mem (h : line.Sound config) :
    0x0A ∉ line.body ++ [0x2A, line.high, line.low, 0x0D] := by
  have hnone : Hex.digitValue? 0x0A = none := rfl
  obtain ⟨m, n, hm, hn, -⟩ := Checksum.ofDigits_eq_ok_iff.mp h.sum
  intro hmem
  rcases List.mem_append.mp hmem with hbody | hending
  · cases h.isBody _ hbody
  · simp only [List.mem_cons, List.not_mem_nil, or_false] at hending
    rcases hending with hstar | hhigh | hlow | hreturn
    · cases hstar
    · rw [← hhigh, hnone] at hm
      cases hm
    · rw [← hlow, hnone] at hn
      cases hn
    · cases hreturn

end Line

/-! ## What damage does -/

/-- Whether some bytes after a start character cause an error whatever follows them, and what they have
left then is among `remains`. -/
def Breaks (config : Config) (bytes remains : List UInt8) : Prop :=
  ∃ used left error, bytes = used ++ left ∧ left ⊆ remains ∧
    ∀ stream, firstEvent config (used ++ stream) = some (used.length, .error error)

theorem Breaks.mono {config : Config} {bytes remains remains' : List UInt8}
    (h : Breaks config bytes remains) (hsubset : remains ⊆ remains') :
    Breaks config bytes remains' := by
  obtain ⟨used, left, error, hbytes, hleft, hfirst⟩ := h
  exact ⟨used, left, error, hbytes, List.Subset.trans hleft hsubset, hfirst⟩

/-- **Without a line feed among them, four bytes behind a star are one too many.** -/
theorem ending_refused {tail : List UInt8} (hlength : 4 ≤ tail.length) (hfeed : 0x0A ∉ tail)
    (body : List UInt8) :
    ∃ used left, tail = used ++ left ∧
      ∀ stream, ending body (used ++ stream) = some (used.length, .error .protocolViolation) := by
  match tail with
  | [] | [_] | [_, _] | [_, _, _] => simp at hlength
  | high :: low :: third :: fourth :: left =>
    by_cases hreturn : third = 0x0D
    · subst hreturn
      refine ⟨[high, low, 0x0D, fourth], left, rfl, fun stream => ?_⟩
      have hfourth : fourth ≠ 0x0A := by
        rintro rfl
        exact hfeed (by simp)
      exact (ending_lineFeed ..).trans (by rw [if_neg hfourth]; rfl)
    · exact ⟨[high, low, third], fourth :: left, rfl,
        fun stream => ending_carriageReturn hreturn body high low stream⟩

section Body

variable {config : Config} {body : List UInt8} (hbody : ∀ byte ∈ body, isBody byte)
  (hroom : body.length ≤ config.capacity)

include hbody hroom

/-- Digits that do not spell the checksum leave nothing of a line. -/
theorem breaks_of_ofDigits {high low : UInt8}
    (h : Checksum.ofDigits (high, low) ≠ .ok (body.foldl (· ^^^ ·) 0)) (remains : List UInt8) :
    Breaks config (body ++ [0x2A, high, low, 0x0D, 0x0A]) remains := by
  obtain ⟨error, herror⟩ := exists_error_of_ofDigits h
  refine ⟨_, [], error, (List.append_nil _).symm, List.nil_subset _, fun stream => ?_⟩
  rw [List.append_assoc]
  change firstEvent config (body ++ 0x2A :: high :: low :: 0x0D :: 0x0A :: stream) = _
  rw [firstEvent_star hbody hroom, ending_lineFeed, if_pos rfl, herror, List.length_append]
  rfl

/-- A line feed ends a body, and all that follows it is left. -/
theorem breaks_of_lineFeed (tail : List UInt8) : Breaks config (body ++ 0x0A :: tail) tail := by
  refine ⟨body ++ [0x0A], tail, .protocolViolation, ?_, List.Subset.refl _, fun stream => ?_⟩
  · rw [List.append_assoc]
    rfl
  · rw [List.append_assoc, List.length_append]
    exact firstEvent_lineFeed hbody hroom stream

/-- A star ends a body too, and what follows it is no ending if its first line feed comes too late. -/
theorem breaks_of_star {tail : List UInt8} (hlength : 4 ≤ tail.length) (hfeed : 0x0A ∉ tail)
    (last : List UInt8) : Breaks config (body ++ 0x2A :: (tail ++ last)) (tail ++ last) := by
  obtain ⟨used, left, rfl, hending⟩ := ending_refused hlength hfeed body
  have hused : body.length + 1 + used.length = (body ++ 0x2A :: used).length := by
    rw [List.length_append, List.length_cons, Nat.add_assoc, Nat.add_comm 1]
  refine ⟨body ++ 0x2A :: used, left ++ last, .protocolViolation, ?_, ?_, fun stream => ?_⟩
  · simp only [List.append_assoc, List.cons_append]
  · rw [List.append_assoc]
    exact List.subset_append_right ..
  · rw [List.append_assoc, List.cons_append, firstEvent_star hbody hroom, hending, ← hused]
    rfl

end Body

namespace Line

variable {config : Config} {line damaged : Line}

/-- **Another byte in the body breaks a sound line**: it is a star, a line feed, or a byte of a body
that is framed as before and has another sum. -/
theorem Sound.breaks_body {start high low : UInt8} {front back : List UInt8} {old new : UInt8}
    (h : Sound config ⟨start, front ++ old :: back, high, low⟩) (hne : new ≠ old) :
    Breaks config (front ++ new :: back ++ [0x2A, high, low, 0x0D, 0x0A])
      (back ++ [0x2A, high, low, 0x0D, 0x0A]) := by
  have hsum := h.sum
  have hlength := h.room
  have hfeed := h.lineFeed_not_mem
  obtain ⟨hfront, hback⟩ := List.forall_mem_append.mp h.isBody
  obtain ⟨-, hback⟩ := List.forall_mem_cons.mp hback
  dsimp only at hsum hlength hfeed
  have hroom : front.length ≤ config.capacity := by
    rw [List.length_append] at hlength
    exact Nat.le_of_add_right_le hlength
  cases hnew : Sentence.isBody new with
  | true =>
    have hbody : ∀ byte ∈ front ++ new :: back, Sentence.isBody byte :=
      List.forall_mem_append.mpr ⟨hfront, List.forall_mem_cons.mpr ⟨hnew, hback⟩⟩
    have hroom' : (front ++ new :: back).length ≤ config.capacity := by
      rwa [List.length_append, List.length_cons] at hlength ⊢
    exact breaks_of_ofDigits hbody hroom'
      (fun hsame => hne (Checksum.byte_unique (Except.ok.inj (hsame.symm.trans hsum)))) _
  | false =>
    rw [List.append_assoc, List.cons_append]
    rcases isBody_eq_false_iff.mp hnew with rfl | rfl
    · have hfeed' : 0x0A ∉ back ++ [0x2A, high, low, 0x0D] := by
        rw [List.append_assoc, List.cons_append] at hfeed
        exact fun hmem => hfeed (List.mem_append_right _ (List.mem_cons_of_mem _ hmem))
      have hbreaks := breaks_of_star hfront hroom (by simp) hfeed' [0x0A]
      rwa [List.append_assoc] at hbreaks
    · exact breaks_of_lineFeed hfront hroom _

/-- **A damaged line breaks**, and what is left of it was in the line before. -/
theorem Sound.breaks (h : line.Sound config) (hdamage : line.Damaged damaged) :
    Breaks config damaged.rest line.rest := by
  have hsum := h.sum
  cases hdamage with
  | @body start high low front back old new hne =>
    refine (h.breaks_body hne).mono fun byte hbyte => ?_
    rw [rest, List.append_assoc, List.cons_append]
    exact List.mem_append_right _ (List.mem_cons_of_mem _ hbyte)
  | high hne =>
    exact breaks_of_ofDigits h.isBody h.room
      (fun hsame => hne (Checksum.digitValue?_eq_of_ofDigits hsum hsame).1) _
  | low hne =>
    exact breaks_of_ofDigits h.isBody h.room
      (fun hsame => hne (Checksum.digitValue?_eq_of_ofDigits hsum hsame).2) _

theorem Damaged.start_eq (h : line.Damaged damaged) : damaged.start = line.start := by
  cases h <;> rfl

end Line

/-! ## What is reported -/

/-- **A line with one damaged byte is refused.**

Take a line that a receiver between two sentences accepts at its last byte, with no start character
behind its first.  Once a byte of its body becomes any other byte, or one of its digits no longer spells the same
digit, a receiver between two sentences reports one error for it and nothing else, whatever it held
before.  The rest of the stream is read as if the line had not been there. -/
theorem damaged_line_refused {config : Config} {line damaged : Line} {r r' : Reception}
    {place : Nat} {raw : RawSentence} (hidle : r.phase = .start) (hquiet : Quiet config line.rest)
    (haccepted : (place + line.rest.length, .ok raw)
      ∈ ((receiver config).run r place line.bytes).2)
    (hdamage : line.Damaged damaged) (hidle' : r'.phase = .start) :
    ∃ last error, last < damaged.bytes.length ∧
      (∀ place, ((receiver config).run r' place damaged.bytes).2
        = [(place + last, .error error)]) ∧
      ∀ place stream, ((receiver config).run r' place (damaged.bytes ++ stream)).2
        = (place + last, .error error)
          :: ((receiver config).run r' (place + damaged.bytes.length) stream).2 := by
  rw [events_of_idle hidle] at haccepted
  have hsound := Line.sound_of_reported hquiet haccepted
  obtain ⟨used, left, error, hrest, hleft, hfirst⟩ := hsound.breaks hdamage
  have hstart : damaged.start ∈ config.starts := hdamage.start_eq ▸ hsound.start
  have hskip := skips_of_quiet fun byte hbyte => hquiet byte (hleft hbyte)
  have hevents (place : Nat) (stream : List UInt8) :
      ((receiver config).run r' place (damaged.bytes ++ stream)).2
        = (place + used.length, .error error)
          :: ((receiver config).run r' (place + damaged.bytes.length) stream).2 := by
    have hline : damaged.bytes ++ stream = damaged.start :: (used ++ (left ++ stream)) := by
      rw [Line.bytes, hrest, List.cons_append, List.append_assoc]
    have hplace : place + used.length + 1 + left.length = place + damaged.bytes.length := by
      rw [Line.bytes, hrest, List.length_cons, List.length_append]
      omega
    rw [events_of_idle hidle', events_of_idle hidle', hline, grammar_event hstart (hfirst _),
      List.drop_left, hskip, hplace]
  refine ⟨used.length, error, ?_, fun place => ?_, hevents⟩
  · rw [Line.bytes, hrest, List.length_cons, List.length_append]
    omega
  · have halone := hevents place []
    rwa [List.append_nil] at halone

/-- A heading to the east. -/
def eastward : Line := ⟨0x24, utf8 "GPHDT,90.0,T", 0x30, 0x43⟩

/-- A digit of the heading becomes a star, or one of the checksum a lower-case letter that is no
digit. -/
theorem damaged_line_refused_eastward :
    (Quiet ⟨16, [0x24]⟩ eastward.rest ∧
      (0 + eastward.rest.length, .ok (.ofFields "GP" "HDT" ["90.0", "T"]))
        ∈ ((receiver ⟨16, [0x24]⟩).run .fresh 0 eastward.bytes).2 ∧
      eastward.Damaged ⟨0x24, utf8 "GPHDT,*0.0,T", 0x30, 0x43⟩ ∧
      eastward.Damaged ⟨0x24, utf8 "GPHDT,90.0,T", 0x30, 0x67⟩) ∧
    (∃ last error, ((receiver ⟨16, [0x24]⟩).run .fresh 0 (utf8 "$GPHDT,*0.0,T*0C\r\n")).2
      = [(0 + last, .error error)]) ∧
    ∃ last error, ((receiver ⟨16, [0x24]⟩).run .fresh 0 (utf8 "$GPHDT,90.0,T*0g\r\n")).2
      = [(0 + last, .error error)] := by
  have hquiet : Quiet ⟨16, [0x24]⟩ eastward.rest := by decide +kernel
  have haccepted : (0 + eastward.rest.length, .ok (.ofFields "GP" "HDT" ["90.0", "T"]))
      ∈ ((receiver ⟨16, [0x24]⟩).run .fresh 0 eastward.bytes).2 := by decide +kernel
  have hstar : eastward.Damaged ⟨0x24, utf8 "GPHDT,*0.0,T", 0x30, 0x43⟩ :=
    .body (utf8 "GPHDT,") (utf8 "0.0,T") (by decide)
  have hdigit : eastward.Damaged ⟨0x24, utf8 "GPHDT,90.0,T", 0x30, 0x67⟩ := .low (by decide)
  have hidle : Reception.fresh.phase = .start := rfl
  refine ⟨⟨hquiet, haccepted, hstar, hdigit⟩, ?_, ?_⟩
  · obtain ⟨last, error, -, hrun, -⟩ :=
      damaged_line_refused hidle hquiet haccepted hstar hidle
    exact ⟨last, error, hrun 0⟩
  · obtain ⟨last, error, -, hrun, -⟩ :=
      damaged_line_refused hidle hquiet haccepted hdigit hidle
    exact ⟨last, error, hrun 0⟩

end Sentence

end VehicleLink
