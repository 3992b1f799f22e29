import ObjectMemory.Proofs.Json.Canonical
import ObjectMemory.Proofs.Json.Leaves
import ObjectMemory.Proofs.Json.Numerals

/-!
# Where strings and numbers end

Two readers of a document may make different things of a string or of a number, and one may refuse
what the other takes, but they agree on where it ends.  A string ends at the first quote that is not
part of an escape, and what is inside it can be told piece by piece, without looking at what
follows.  A number goes on as long as it can.

So what was taken off one text as a string or a number is taken off any other text that starts with
it, by every reader that makes anything of it.

* `Takes` — a reader takes exactly some characters, whatever follows, or it fails;
* `Inside` — what may stand between quotes; `inside_of_readInside`, `takes_inside` — what the two
  readers of strings do with it;
* `numeral_of_read` — what was taken as a number is a number again.
-/

namespace ObjectMemory.Json

variable {α β : Type}

/-! ## What a reader takes -/

/-- A reader takes just these characters off a text that does not go on with more of a number, and
makes one thing of them, or it never takes them. -/
def Takes (read : Reader α) (front : List Char) (made : Option α) : Prop :=
  ∀ rest, EndsNumber rest → ∀ taken,
    read (front ++ rest) = .ok taken ↔ ∃ a ∈ made, taken = (a, rest)

lemma bind_eq_ok_iff {ε : Type} {first : Except ε α} {next : α → Except ε β} {b : β} :
    first >>= next = .ok b ↔ ∃ a, first = .ok a ∧ next a = .ok b := by
  refine ⟨of_bind_ok, ?_⟩
  rintro ⟨a, ha, hb⟩
  rw [ha]
  exact hb

lemma takes_of_ok {read : Reader α} {front : List Char} {a : α}
    (h : ∀ rest, EndsNumber rest → read (front ++ rest) = .ok (a, rest)) :
    Takes read front (some a) := by
  intro rest hrest taken
  simp [h rest hrest, eq_comm]

lemma takes_of_error {read : Reader α} {front : List Char}
    (h : ∀ rest, EndsNumber rest → ∃ fault, read (front ++ rest) = .error fault) :
    Takes read front none := by
  intro rest hrest taken
  obtain ⟨fault, hfault⟩ := h rest hrest
  simp [hfault]

/-- What a reader makes of a text that it takes all of. -/
def whole? (read : Reader α) (text : List Char) : Option α :=
  match read text with
  | .ok (a, []) => some a
  | _ => none

/-- What is made of characters that are taken is what is made of them alone. -/
lemma Takes.made_eq {read : Reader α} {front : List Char} {made : Option α}
    (h : Takes read front made) : whole? read front = made := by
  have halone := h [] endsNumber_nil
  rw [List.append_nil] at halone
  rw [whole?]
  cases made with
  | some a => rw [(halone (a, [])).mpr ⟨a, rfl, rfl⟩]
  | none =>
      split
      · next a hread =>
          obtain ⟨_, hnone, -⟩ := (halone _).mp hread
          cases hnone
      · rfl

/-- What is made of what a reader takes. -/
lemma Takes.map {read : Reader α} {more : Reader β} {front longer : List Char} {made : Option α}
    (h : Takes read front made) (f : α → β)
    (heq : ∀ rest, more (longer ++ rest) = do
      let (a, rest) ← read (front ++ rest)
      return (f a, rest)) :
    Takes more longer (made.map f) := by
  intro rest hrest taken
  rw [heq, bind_eq_ok_iff]
  constructor
  · rintro ⟨front, hread, htaken⟩
    obtain ⟨a, ha, rfl⟩ := (h rest hrest _).mp hread
    exact ⟨f a, Option.mem_map_of_mem f ha, (Except.ok.inj htaken).symm⟩
  · rintro ⟨b, hb, rfl⟩
    obtain ⟨a, ha, rfl⟩ := Option.mem_map.mp hb
    exact ⟨(a, rest), (h rest hrest _).mpr ⟨a, ha, rfl⟩, rfl⟩

/-- One reader after another takes what both take. -/
lemma Takes.bind {read : Reader β} {first : Reader α} {next : Front α → Except Fault (Front β)}
    (heq : ∀ text, read text = first text >>= next) {front back : List Char} {made : Option α}
    {further : α → Option β} (h : Takes first front made)
    (hback : ∀ rest, EndsNumber rest → EndsNumber (back ++ rest))
    (hnext : ∀ a, Takes (fun text => next (a, text)) back (further a)) :
    Takes read (front ++ back) (made.bind further) := by
  intro rest hrest taken
  rw [heq, bind_eq_ok_iff, List.append_assoc]
  constructor
  · rintro ⟨taken₁, hfirst, htaken⟩
    obtain ⟨a, ha, rfl⟩ := (h _ (hback rest hrest) _).mp hfirst
    obtain ⟨b, hb, rfl⟩ := (hnext a rest hrest _).mp htaken
    exact ⟨b, Option.mem_bind_iff.mpr ⟨a, ha, hb⟩, rfl⟩
  · rintro ⟨b, hb, rfl⟩
    obtain ⟨a, ha, hb⟩ := Option.mem_bind_iff.mp hb
    exact ⟨(a, back ++ rest), (h _ (hback rest hrest) _).mpr ⟨a, ha, rfl⟩,
      (hnext a rest hrest _).mpr ⟨b, hb, rfl⟩⟩

/-! ## Strings -/

/-- What may stand between the quotes of a string: characters that need no escape, and escapes of
one character or by code unit. -/
inductive Inside : List Char → Prop where
  | nil : Inside []
  | plain {c : Char} {rest : List Char} (hquote : c ≠ '"') (hslash : c ≠ '\\')
      (hcontrol : ¬c.toNat < 0x20) (h : Inside rest) : Inside (c :: rest)
  | letter {c : Char} {rest : List Char} (hletter : c ∈ ['"', '\\', '/', 'b', 'f', 'n', 'r', 't'])
      (h : Inside rest) : Inside ('\\' :: c :: rest)
  | unit {a b c d : Char} {n : ℕ} {rest : List Char} (hunit : hexUnit? a b c d = some n)
      (h : Inside rest) : Inside ('\\' :: 'u' :: a :: b :: c :: d :: rest)

/-- An escape that was looked at, and the rest of the string behind it. -/
lemma inside_escape {inside after : List Char} {length : ℕ}
    (hlength : escapeLength? (inside ++ after) = some length) (hle : length ≤ inside.length)
    (h : Inside (inside.drop length)) : Inside ('\\' :: inside) := by
  unfold escapeLength? at hlength
  split at hlength
  · next a b c d tail heq =>
      obtain ⟨n, hn, rfl⟩ := Option.map_eq_some_iff.mp hlength
      rcases inside with _ | ⟨u, _ | ⟨a', _ | ⟨b', _ | ⟨c', _ | ⟨d', rest⟩⟩⟩⟩⟩ <;>
        simp at hle heq
      obtain ⟨rfl, rfl, rfl, rfl, rfl, -⟩ := heq
      exact .unit hn h
  · next c tail hnot heq =>
      split_ifs at hlength with hletter
      obtain rfl := Option.some.inj hlength
      rcases inside with _ | ⟨c', rest⟩ <;> simp at hle heq
      obtain ⟨rfl, -⟩ := heq
      exact .letter hletter h
  · cases hlength

/-- What is kept of a string is all that stands before its quote. -/
lemma inside_of_readInside {text : List Char} :
    ∀ {passed : ℕ} {inside after : List Char}, readInside passed text = .ok (inside, after) →
      text = inside ++ '"' :: after ∧ passed ≤ inside.length ∧ Inside (inside.drop passed) := by
  induction text with
  | nil =>
      intro passed inside after h
      cases h
  | cons c rest ih =>
      intro passed inside after h
      cases passed with
      | succ passed =>
          rw [readInside] at h
          obtain ⟨⟨front, behind⟩, hread, heq⟩ := of_bind_ok h
          cases heq
          obtain ⟨rfl, hle, hinside⟩ := ih hread
          exact ⟨rfl, Nat.succ_le_succ hle, hinside⟩
      | zero =>
          rw [readInside] at h
          dsimp only at h
          split_ifs at h with hquote hslash hcontrol
          · cases h
            exact ⟨congrArg (· :: rest) hquote, Nat.zero_le _, .nil⟩
          · split at h
            · next length hlength =>
                obtain ⟨⟨front, behind⟩, hread, heq⟩ := of_bind_ok h
                cases heq
                obtain ⟨rfl, hle, hinside⟩ := ih hread
                refine ⟨rfl, Nat.zero_le _, ?_⟩
                rw [hslash]
                exact inside_escape hlength hle hinside
            · cases h
          · obtain ⟨⟨front, behind⟩, hread, heq⟩ := of_bind_ok h
            cases heq
            obtain ⟨rfl, -, hinside⟩ := ih hread
            exact ⟨rfl, Nat.zero_le _, .plain hquote hslash hcontrol hinside⟩

lemma readChars_escape_error {text : List Char} {fault : Fault}
    (h : readEscape text = .error fault) : readChars 0 ('\\' :: text) = .error fault := by
  rw [readChars]
  simp only [h, bind, Except.bind]
  rfl

lemma readEscape_letter {c : Char} (h : c ∈ ['"', '\\', '/', 'b', 'f', 'n', 'r', 't']) :
    ∃ char, ∀ rest, readEscape (c :: rest) = .ok (char, rest) := by
  simp only [List.mem_cons, List.not_mem_nil, or_false] at h
  rcases h with rfl | rfl | rfl | rfl | rfl | rfl | rfl | rfl <;> exact ⟨_, fun _ => rfl⟩

lemma readHex_unit {a b c d : Char} {n : ℕ} (h : hexUnit? a b c d = some n) (rest : List Char) :
    readHex (a :: b :: c :: d :: rest) = .ok (n, rest) := by
  simp only [readHex, h]

/-- What has to follow the first half of a surrogate pair follows it or does not. -/
lemma readPairLink_cons (expected c : Char) (rest : List Char) :
    readPairLink expected (c :: rest)
      = if c = expected then .ok ((), rest) else .error (.ahead .brokenPair (c :: rest)) := rfl

lemma readEscape_u (rest : List Char) : readEscape ('u' :: rest) = readUnitEscape rest := rfl

/-- The first half of a surrogate pair stands for a character together with the second half, if an
escape of it comes next in the string, and else for none. -/
lemma readEscape_half {a b c d : Char} {n : ℕ} {inside : List Char}
    (hunit : hexUnit? a b c d = some n) (hhigh : 0xD800 ≤ n ∧ n < 0xDC00) (h : Inside inside) :
    (∃ a' b' c' d' tail char, inside = '\\' :: 'u' :: a' :: b' :: c' :: d' :: tail ∧ Inside tail ∧
      ∀ after, readEscape ('u' :: a :: b :: c :: d :: (inside ++ '"' :: after))
        = .ok (char, tail ++ '"' :: after)) ∨
    ∀ after, ∃ fault, readEscape ('u' :: a :: b :: c :: d :: (inside ++ '"' :: after))
      = .error fault := by
  have hlow : ¬(0xDC00 ≤ n ∧ n < 0xE000) := by omega
  simp only [readEscape_u, readUnitEscape, readHex_unit hunit, bind, Except.bind, hlow, hhigh,
    if_false, and_self, if_true]
  -- only an escape by code unit can go on
  cases h with
  | nil => exact .inr fun after => ⟨_, rfl⟩
  | @plain c rest _ hslash _ _ =>
      refine .inr fun after => ?_
      simp only [List.cons_append, readPairLink_cons, hslash, if_false]
      exact ⟨_, rfl⟩
  | @letter c rest hletter _ =>
      have hu : c ≠ 'u' := by
        rintro rfl
        exact absurd hletter (by decide)
      refine .inr fun after => ?_
      simp only [List.cons_append, readPairLink_cons, hu, if_true, if_false]
      exact ⟨_, rfl⟩
  | @unit a' b' c' d' m tail hunit' h =>
      simp only [List.cons_append, readPairLink_cons, if_true, readHex_unit hunit']
      by_cases hpair : 0xDC00 ≤ m ∧ m < 0xE000
      · refine .inl ⟨a', b', c', d', tail,
          .ofNat (0x10000 + (n - 0xD800) * 0x400 + (m - 0xDC00)), rfl, h, fun after => ?_⟩
        simp only [hpair, and_self, if_true]
        rfl
      · refine .inr fun after => ?_
        simp only [hpair, if_false]
        exact ⟨_, rfl⟩

/-- An escape by code unit stands for a character by itself, or together with a second one, or for
none, whatever stands behind the string. -/
lemma readEscape_unit {a b c d : Char} {n : ℕ} {inside : List Char}
    (hunit : hexUnit? a b c d = some n) (h : Inside inside) :
    (∃ char, ∀ after, readEscape ('u' :: a :: b :: c :: d :: (inside ++ '"' :: after))
      = .ok (char, inside ++ '"' :: after)) ∨
    (∃ a' b' c' d' tail char, inside = '\\' :: 'u' :: a' :: b' :: c' :: d' :: tail ∧ Inside tail ∧
      ∀ after, readEscape ('u' :: a :: b :: c :: d :: (inside ++ '"' :: after))
        = .ok (char, tail ++ '"' :: after)) ∨
    ∀ after, ∃ fault, readEscape ('u' :: a :: b :: c :: d :: (inside ++ '"' :: after))
      = .error fault := by
  by_cases hhigh : 0xD800 ≤ n ∧ n < 0xDC00
  · exact .inr (readEscape_half hunit hhigh h)
  simp only [readEscape_u, readUnitEscape, readHex_unit hunit, bind, Except.bind, hhigh, if_false]
  by_cases hlow : 0xDC00 ≤ n ∧ n < 0xE000
  · simp only [hlow, and_self, if_true]
    exact .inr (.inr fun after => ⟨_, rfl⟩)
  · simp only [hlow, if_false]
    exact .inl ⟨.ofNat n, fun after => rfl⟩

/-- What is inside a string is a text or none, and what follows it has no say in that. -/
lemma exists_takes_inside {inside : List Char} (h : Inside inside) :
    ∃ made, Takes (readChars 0) (inside ++ ['"']) made := by
  induction hlength : inside.length using Nat.strong_induction_on generalizing inside with
  | _ length ih =>
      subst hlength
      cases h with
      | nil => exact ⟨some [], takes_of_ok fun rest _ => rfl⟩
      | @plain c rest hquote hslash hcontrol h =>
          obtain ⟨made, hmade⟩ := ih rest.length (by simp) h rfl
          refine ⟨_, hmade.map (c :: ·) fun after => ?_⟩
          rw [List.cons_append, List.cons_append, readChars]
          simp only [hquote, hslash, hcontrol, if_false]
      | @letter c rest hletter h =>
          obtain ⟨made, hmade⟩ := ih rest.length (by simp) h rfl
          obtain ⟨char, hchar⟩ := readEscape_letter hletter
          exact ⟨_, hmade.map (char :: ·) fun after => readChars_escape [c] (hchar _)⟩
      | @unit a b c d n rest hunit h =>
          rcases readEscape_unit hunit h with
            ⟨char, hchar⟩ | ⟨a', b', c', d', tail, char, rfl, htail, hchar⟩ | herror
          · obtain ⟨made, hmade⟩ := ih rest.length (by simp; omega) h rfl
            refine ⟨_, hmade.map (char :: ·) fun after => ?_⟩
            exact readChars_escape ['u', a, b, c, d] (by simpa using hchar after)
          · obtain ⟨made, hmade⟩ := ih tail.length (by simp; omega) htail rfl
            refine ⟨_, hmade.map (char :: ·) fun after => ?_⟩
            exact readChars_escape ['u', a, b, c, d, '\\', 'u', a', b', c', d']
              (by simpa using hchar after)
          · refine ⟨none, takes_of_error fun after _ => ?_⟩
            obtain ⟨fault, hfault⟩ := herror after
            exact ⟨fault, readChars_escape_error (by simpa using hfault)⟩

lemma unescape?_eq_whole? (inside : List Char) :
    unescape? inside = whole? readString (inside ++ ['"']) := by
  rw [unescape?, whole?]
  rcases readString (inside ++ ['"']) with fault | ⟨text, _ | ⟨c, rest⟩⟩ <;> rfl

/-- **What is inside a string is its text**, or no text at all, whatever follows the string. -/
lemma takes_inside {inside : List Char} (h : Inside inside) :
    Takes readString (inside ++ ['"']) (unescape? inside) := by
  obtain ⟨made, hmade⟩ := exists_takes_inside h
  have hstring : Takes readString (inside ++ ['"']) (made.map String.ofList) :=
    hmade.map String.ofList fun _ => rfl
  rwa [unescape?_eq_whole?, hstring.made_eq]

/-! ## Numbers -/

lemma readWhole_eq_ok {text digits rest : List Char} (h : readWhole text = .ok (digits, rest)) :
    IsWhole digits ∧ text = digits ++ rest := by
  rw [readWhole.eq_def] at h
  split at h
  · cases h
  · split at h
    · split_ifs at h
      cases h
      exact ⟨isWhole_zero, rfl⟩
    · cases h
      exact ⟨isWhole_zero, rfl⟩
  · next c tail hzero =>
      split_ifs at h with hc
      cases h
      refine ⟨⟨?_, .inr ⟨c, _, rfl, hzero⟩⟩, ?_⟩
      · exact List.forall_mem_cons.mpr ⟨hc, fun d hd => List.mem_takeWhile_imp hd⟩
      · rw [List.cons_append, List.takeWhile_append_dropWhile]

lemma readFraction_eq_ok {text rest : List Char} {fraction : Option (List Char)}
    (h : readFraction text = .ok (fraction, rest)) :
    (∀ digits ∈ fraction, digits ≠ [] ∧ ∀ c ∈ digits, c.isDigit = true) ∧
      text = fractionChars fraction ++ rest := by
  rw [readFraction.eq_def] at h
  split at h
  · next tail =>
      split at h
      · cases h
      · next hsome =>
          cases h
          refine ⟨fun digits hdigits => ?_, ?_⟩
          · obtain rfl := Option.some.inj hdigits
            exact ⟨hsome, fun c hc => List.mem_takeWhile_imp hc⟩
          · rw [fractionChars, List.cons_append, List.takeWhile_append_dropWhile]
  · cases h
    exact ⟨fun _ hnone => (by cases hnone), rfl⟩

/-- A sign, however it is written. -/
lemma readSign_eq (text : List Char) :
    ∃ sign, text = sign ++ (readSign text).2 ∧
      ∀ {digits rest : List Char}, digits ≠ [] → (∀ c ∈ digits, c.isDigit = true) →
        readSign (sign ++ (digits ++ rest)) = ((readSign text).1, digits ++ rest) := by
  rw [readSign.eq_def]
  split
  · exact ⟨['+'], rfl, fun _ _ => rfl⟩
  · exact ⟨['-'], rfl, fun _ _ => rfl⟩
  · refine ⟨[], rfl, fun {digits rest} hne hdigits => ?_⟩
    obtain ⟨c, tail, rfl⟩ := List.exists_cons_of_ne_nil hne
    have hc := hdigits c List.mem_cons_self
    rw [List.nil_append, List.cons_append, readSign]
    all_goals
      intro _ heq
      obtain ⟨rfl, -⟩ := List.cons.inj heq
      exact absurd hc (by decide)

/-- An exponent, however it is written, or none. -/
lemma readExponent_eq_ok {text rest : List Char} {exponent : Option WrittenExponent}
    (h : readExponent text = .ok (exponent, rest)) :
    ∃ written, text = written ++ rest ∧ ∀ other, EndsNumber other →
      readExponent (written ++ other) = .ok (exponent, other) ∧
        ∀ c ∈ (written ++ other).head?, c.isDigit = false ∧ c ≠ '.' := by
  have habsent : ∀ other, EndsNumber other → readExponent ([] ++ other) = .ok (none, other) ∧
      ∀ c ∈ ([] ++ other).head?, c.isDigit = false ∧ c ≠ '.' := fun other hother =>
    ⟨@readExponent_append other none (fun _ hnone => by cases hnone) hother,
      fun d hd => ⟨(hother d hd).1, (hother d hd).2.1⟩⟩
  rw [readExponent.eq_def] at h
  split at h
  · next c tail =>
      split_ifs at h with hletter
      · obtain ⟨sign, htail, hsign⟩ := readSign_eq tail
        dsimp only at h
        split at h
        · cases h
        · next hsome =>
            cases h
            have hdigits : ∀ d ∈ (readSign tail).2.takeWhile Char.isDigit, d.isDigit = true :=
              fun d hd => List.mem_takeWhile_imp hd
            refine ⟨c :: (sign ++ (readSign tail).2.takeWhile Char.isDigit), ?_, ?_⟩
            · rw [List.cons_append, List.append_assoc, List.takeWhile_append_dropWhile, ← htail]
            · intro other hother
              constructor
              · rw [List.cons_append, List.append_assoc, readExponent]
                simp only [hletter, if_true, hsign hsome hdigits,
                  Text.takeWhile_digits hdigits hother.noDigit,
                  Text.dropWhile_digits hdigits hother.noDigit]
              · rintro _ ⟨⟩
                rcases hletter with rfl | rfl <;> decide
      · cases h
        exact ⟨[], rfl, habsent⟩
  · cases h
    exact ⟨[], rfl, habsent⟩

/-- **What was taken as a number is a number again**, with any text behind it that is no more of a
number. -/
lemma numeral_of_read {negative : Bool} {text rest : List Char} {numeral : Numeral}
    (h : readNumeral negative text = .ok (numeral, rest)) :
    ∃ spelling, text = spelling ++ rest ∧ (∃ c tail, spelling = c :: tail ∧ c.isDigit = true) ∧
      Takes (readNumeral negative) spelling (some numeral) := by
  obtain ⟨⟨whole, text₁⟩, hwhole, h⟩ := of_bind_ok h
  obtain ⟨⟨fraction, text₂⟩, hfraction, h⟩ := of_bind_ok h
  obtain ⟨⟨exponent, text₃⟩, hexponent, h⟩ := of_bind_ok h
  cases h
  obtain ⟨⟨hdigits, hstart⟩, rfl⟩ := readWhole_eq_ok hwhole
  obtain ⟨hplaces, rfl⟩ := readFraction_eq_ok hfraction
  obtain ⟨written, rfl, hwritten⟩ := readExponent_eq_ok hexponent
  refine ⟨whole ++ (fractionChars fraction ++ written), by simp, ?_, ?_⟩
  · obtain ⟨c, tail, rfl⟩ : ∃ c tail, whole = c :: tail := by
      rcases hstart with rfl | ⟨c, tail, rfl, -⟩
      · exact ⟨_, _, rfl⟩
      · exact ⟨c, tail, rfl⟩
    exact ⟨c, _, rfl, hdigits c List.mem_cons_self⟩
  · refine takes_of_ok fun other hother => ?_
    obtain ⟨hread, hhead⟩ := hwritten other hother
    have hnodigit : Text.NoDigit (written ++ other) := fun c hc => (hhead c hc).1
    have hpoint : '.' ∉ (written ++ other).head? := fun hc => (hhead _ hc).2 rfl
    rw [List.append_assoc, List.append_assoc]
    simp only [readNumeral, readWhole_append ⟨hdigits, hstart⟩ (fractionChars_head hnodigit),
      readFraction_append hplaces hnodigit hpoint, hread, bind, Except.bind]
    rfl

/-- The value of a number does not depend on what follows it either. -/
lemma takes_number {negative : Bool} {digits : List Char} {numeral : Numeral}
    (h : Takes (readNumeral negative) digits (some numeral)) :
    Takes (readNumberValue negative) digits (whole? (readNumberValue negative) digits) := by
  have hread : ∀ rest, EndsNumber rest →
      readNumeral negative (digits ++ rest) = .ok (numeral, rest) := fun rest hrest =>
    (h rest hrest _).mpr ⟨numeral, rfl, rfl⟩
  obtain ⟨made, hmade⟩ : ∃ made, Takes (readNumberValue negative) digits made := by
    cases hvalue : numeral.number with
    | ok n =>
        refine ⟨some (.num n), takes_of_ok fun rest hrest => ?_⟩
        simp only [readNumberValue, readNumber, hread rest hrest, hvalue, bind, Except.bind]
        rfl
    | error unseen =>
        refine ⟨none, takes_of_error fun rest hrest => ?_⟩
        simp only [readNumberValue, readNumber, hread rest hrest, hvalue, bind, Except.bind]
        exact ⟨_, rfl⟩
  rwa [hmade.made_eq]

end ObjectMemory.Json
