import LayeredSchema.Proofs.Condition.Token
import LayeredSchema.Proofs.Text.Bytes
import Mathlib

/-!
Tokens by byte offsets. A token is cut out of the text at the bytes where it starts and stops, and
the characters are followed up to the byte where it stops. A cut inside a character is no result at
all, nor is a loop with more rounds than the text has characters. Main definition: `spans`.
-/

namespace LayeredSchema.Condition

open Text

/-- A reading that cuts texts at byte offsets: nothing comes of it if one is inside a character. -/
abbrev Sliced (α : Type) := ExceptT Error Option α

structure Span where
  start : ℕ
  stop : ℕ
  token : Token

def Span.place (s : Span) : ℕ × Token := (s.start, s.token)

def opens (stem cs : List Char) : Bool := (dropStem? stem cs).isSome

def slicedVariable (position : ℕ) (cs : List Char) : Sliced (Token × ℕ) :=
  match offset? (· == '\x7d') cs with
  | none => throw (.unterminatedVariable position)
  | some close => do
    let name ← slice? 2 close cs
    if (trim name).isEmpty then throw (.unterminatedVariable position)
    else return (.variable (String.ofList (trim name)), close + 1)

def slicedString (position : ℕ) (c : Char) (cs : List Char) : Sliced (Token × ℕ) := do
  let (_, inside) ← splitAtByte? 1 cs
  match offset? (· == c) inside with
  | none => throw (.unterminatedString position)
  | some close =>
    let value ← slice? 1 (1 + close) cs
    return (.literal (.string (String.ofList value)), close + 2)

def slicedRun (p : Char → Bool) (read? : List Char → Option Json) (position : ℕ) (c : Char)
    (cs : List Char) : Sliced (Token × ℕ) := do
  let length := bytesBefore (fun d => !p d) cs
  let (run, _) ← splitAtByte? length cs
  match read? run with
  | some v => return (.literal v, length)
  | none => throw (.unexpectedChar position c)

def slicedLiteral (position : ℕ) (c : Char) (cs : List Char) : Sliced (Token × ℕ) :=
  if c = '\'' || c = '"' then slicedString position c cs
  else if c.isDigit || c = '-' || c = '.' then
    slicedRun isNumberChar (fun ds => (number? ds).map fun x => .number (.double x)) position c cs
  else if c.isAlpha then slicedRun Char.isAlphanum word? position c cs
  else throw (.unexpectedChar position c)

def slicedToken (position : ℕ) (c : Char) (cs : List Char) : Sliced (Token × ℕ) :=
  if opens ['&', '&'] cs then return (.and, 2)
  else if opens ['|', '|'] cs then return (.or, 2)
  else if opens ['=', '='] cs then return (.operator .eq, 2)
  else if opens ['!', '='] cs then return (.operator .ne, 2)
  else if opens ['>', '='] cs then return (.operator .ge, 2)
  else if opens ['<', '='] cs then return (.operator .le, 2)
  else if c = '>' then return (.operator .gt, 1)
  else if c = '<' then return (.operator .lt, 1)
  else if opens ['$', '\x7b'] cs then slicedVariable position cs
  else slicedLiteral position c cs

/-- The first place that is not before a byte offset, from a place on, and what is left there. -/
def follow (target : ℕ) : ℕ → List Char → ℕ × List Char
  | position, [] => (position, [])
  | position, c :: cs =>
    if position < target then follow target (position + c.utf8Size) cs else (position, c :: cs)

def spansFrom (text : List Char) : ℕ → ℕ → List Char → Sliced (List Span)
  | 0, _, _ => ExceptT.mk none
  | _ + 1, _, [] => return []
  | n + 1, position, c :: cs =>
    if isBlank c then spansFrom text n (position + c.utf8Size) cs
    else do
      let (_, rest) ← splitAtByte? position text
      let (t, length) ← slicedToken position c rest
      let (next, left) := follow (position + length) position (c :: cs)
      let more ← spansFrom text n next left
      return ⟨position, position + length, t⟩ :: more

def spans (text : List Char) : Sliced (List Span) := spansFrom text (text.length + 1) 0 text

def Error.IsAt (position : ℕ) (c : Char) (e : Error) : Prop :=
  e = .unexpectedChar position c ∨ e = .unterminatedString position ∨
    e = .unterminatedVariable position

/-- A token by byte offsets is the token that is read, and its length that of the word which is read
to it; or both come to one error, which stands where they start. -/
inductive Agrees (position : ℕ) (c : Char) (cs : List Char) :
    Sliced (Token × ℕ) → Except Error (Token × List Char) → Prop
  | ok {t : Token} {w rest : List Char} (h : c :: cs = w ++ rest) :
      Agrees position c cs (pure (t, byteLength w)) (.ok (t, rest))
  | error {e : Error} (h : e.IsAt position c) : Agrees position c cs (throw e) (.error e)

variable {position : ℕ} {c d : Char} {cs : List Char} {t : Token}

lemma lift_bind {α β : Type} (a : α) (f : α → Sliced β) : (liftM (some a) : Sliced α) >>= f = f a :=
  rfl

lemma closing_cases (d : Char) (cs : List Char) :
    (cs.dropWhile (· != d) = [] ∧ offset? (· == d) cs = none) ∨
      ∃ inside after, cs = inside ++ d :: after ∧ d ∉ inside ∧
        offset? (· == d) cs = some (byteLength inside) := by
  induction cs with
  | nil => exact Or.inl ⟨rfl, rfl⟩
  | cons c cs ih =>
    by_cases hc : c = d
    · refine Or.inr ⟨[], cs, hc ▸ rfl, List.not_mem_nil, ?_⟩
      rw [offset?, if_pos (beq_iff_eq.mpr hc), byteLength_nil]
    · have ho : offset? (· == d) (c :: cs) = (offset? (· == d) cs).map (c.utf8Size + ·) :=
        if_neg fun h => hc (eq_of_beq h)
      rcases ih with ⟨hd, hn⟩ | ⟨inside, after, rfl, hi, hs⟩
      · have hp : (c != d) = true := bne_iff_ne.mpr hc
        refine Or.inl ⟨?_, by rw [ho, hn, Option.map_none]⟩
        rw [List.dropWhile_cons, if_pos hp, hd]
      · have hn : d ∉ c :: inside := List.not_mem_cons_of_ne_of_not_mem (Ne.symm hc) hi
        exact Or.inr ⟨c :: inside, after, rfl, hn, by rw [ho, hs, Option.map_some, byteLength_cons]⟩

lemma slicedVariable_agrees (position : ℕ) (cs : List Char) :
    Agrees position '$' ('\x7b' :: cs) (slicedVariable position ('$' :: '\x7b' :: cs))
      (variableToken position ('\x7b' :: cs)) := by
  have ho : offset? (· == '\x7d') ('$' :: '\x7b' :: cs) =
      ((offset? (· == '\x7d') cs).map (1 + ·)).map (1 + ·) := rfl
  rw [variableToken, slicedVariable, ho]
  rcases closing_cases '\x7d' cs with ⟨hd, hn⟩ | ⟨name, after, rfl, hi, hs⟩
  · rw [hd, hn]
    exact .error (Or.inr (Or.inr rfl))
  · obtain ⟨ht, hd⟩ := takeWhile_closing hi after
    have hb : 1 + (1 + byteLength name) = 2 + byteLength name := (Nat.add_assoc 1 1 _).symm
    have hn : slice? 2 (2 + byteLength name) ('$' :: '\x7b' :: (name ++ '\x7d' :: after)) =
        some name := slice?_append ['$', '\x7b'] name ('\x7d' :: after)
    rw [hs, ht, hd, Option.map_some, Option.map_some, hb]
    dsimp only
    rw [hn, lift_bind]
    split
    · exact .error (Or.inr (Or.inr rfl))
    · have hw : byteLength ('$' :: '\x7b' :: (name ++ ['\x7d'])) = 2 + byteLength name + 1 := by
        rw [byteLength_cons, byteLength_cons, byteLength_append, ← Nat.add_assoc, ← Nat.add_assoc]
        rfl
      rw [← hw]
      exact .ok (by simp)

lemma slicedString_agrees (position : ℕ) (hc : c = '\'' ∨ c = '"') (cs : List Char) :
    Agrees position c cs (slicedString position c (c :: cs)) (literalToken position c cs) := by
  have hu : c.utf8Size = 1 := by rcases hc with rfl | rfl <;> rfl
  have hb : splitAtByte? 1 (c :: cs) = some ([c], cs) :=
    splitAtByte?_eq_some_iff.mpr ⟨rfl, hu⟩
  rw [slicedString, hb, lift_bind, literalToken, if_pos (by simpa using hc)]
  dsimp only
  rcases closing_cases c cs with ⟨hd, hn⟩ | ⟨value, after, rfl, hi, hs⟩
  · rw [hd, hn]
    exact .error (Or.inr (Or.inl rfl))
  · obtain ⟨ht, hd⟩ := takeWhile_closing hi after
    have hv : slice? 1 (1 + byteLength value) (c :: (value ++ c :: after)) = some value := by
      have h := slice?_append [c] value (c :: after)
      rwa [byteLength_cons, hu] at h
    rw [hs, ht, hd]
    dsimp only
    rw [hv, lift_bind]
    have hw : byteLength (c :: (value ++ [c])) = byteLength value + 2 := by
      rw [byteLength_cons, byteLength_append, byteLength_cons, hu, byteLength_nil]
      omega
    rw [← hw]
    exact .ok (by simp)

lemma slicedRun_eq {p : Char → Bool} (read? : List Char → Option Json) (position : ℕ)
    (hp : p c = true) (cs : List Char) : slicedRun p read? position c (c :: cs) =
      match read? (c :: cs.takeWhile p) with
      | some v => pure (.literal v, byteLength (c :: cs.takeWhile p))
      | none => throw (.unexpectedChar position c) := by
  have hb : bytesBefore (fun d => !p d) (c :: cs) = byteLength (c :: cs.takeWhile p) := by
    simp [bytesBefore_eq, hp]
  have hs : splitAtByte? (byteLength (c :: cs.takeWhile p)) (c :: cs) =
      some (c :: cs.takeWhile p, cs.dropWhile p) := by
    have ha := splitAtByte?_append (c :: cs.takeWhile p) (cs.dropWhile p)
    rwa [List.cons_append, List.takeWhile_append_dropWhile] at ha
  rw [slicedRun, hb]
  dsimp only
  rw [hs, lift_bind]

lemma cons_eq_append_run (p : Char → Bool) (c : Char) (cs : List Char) :
    c :: cs = (c :: cs.takeWhile p) ++ cs.dropWhile p := by
  rw [List.cons_append, List.takeWhile_append_dropWhile]

lemma word?_eq_none {w : List Char} (h : ¬c.isAlpha = true) : word? (c :: w) = none := by
  rw [word?.eq_def]
  split
  case h_4 => rfl
  all_goals
    rename_i hw
    obtain ⟨rfl, -⟩ := List.cons.inj hw
    exact absurd rfl h

lemma slicedLiteral_agrees (position : ℕ) (c : Char) (cs : List Char) :
    Agrees position c cs (slicedLiteral position c (c :: cs)) (literalToken position c cs) := by
  have he : Error.IsAt position c (.unexpectedChar position c) := Or.inl rfl
  rw [slicedLiteral]
  split
  · rename_i hq
    exact slicedString_agrees position (by simpa using hq) cs
  rename_i hq
  rw [literalToken, if_neg hq]
  split
  · rename_i hn
    have hp : isNumberChar c = true := by
      rw [Bool.or_eq_true, Bool.or_eq_true, decide_eq_true_iff, decide_eq_true_iff] at hn
      rcases hn with (hn | rfl) | rfl
      · simp [isNumberChar, hn]
      · rfl
      · rfl
    rw [slicedRun_eq _ position hp]
    cases number? (c :: cs.takeWhile isNumberChar) with
    | some x => exact .ok (cons_eq_append_run isNumberChar c cs)
    | none => exact .error he
  split
  · rename_i ha
    have hp : c.isAlphanum = true := by rw [Char.isAlphanum, ha, Bool.true_or]
    rw [slicedRun_eq _ position hp]
    cases word? (c :: cs.takeWhile Char.isAlphanum) with
    | some v => exact .ok (cons_eq_append_run Char.isAlphanum c cs)
    | none => exact .error he
  · rename_i ha
    rw [word?_eq_none ha]
    exact .error he

lemma opens_iff {a b : Char} : opens [a, b] (c :: cs) = true ↔ c = a ∧ ∃ rest, cs = b :: rest := by
  constructor
  · intro h
    obtain ⟨ha, rest, hr⟩ := List.cons_prefix_cons.mp (isSome_dropStem?.mp h)
    exact ⟨ha.symm, rest, hr.symm⟩
  · rintro ⟨rfl, rest, rfl⟩
    exact isSome_dropStem?.mpr ⟨rest, rfl⟩

lemma not_opens {a b : Char} (hn : cs.head?.bind (pair? c) = none) (hp : pair? a b ≠ none) :
    opens [a, b] (c :: cs) = false := by
  refine Bool.eq_false_iff.mpr fun ho => ?_
  obtain ⟨rfl, rest, rfl⟩ := opens_iff.mp ho
  exact hp hn

lemma byteLength_of_pair? (h : pair? c d = some t) : byteLength [c, d] = 2 := by
  unfold pair? at h
  split at h
  all_goals first | contradiction | rfl

lemma slicedToken_of_pair? (h : pair? c d = some t) (position : ℕ) (cs : List Char) :
    slicedToken position c (c :: d :: cs) = pure (t, 2) := by
  unfold pair? at h
  split at h
  all_goals first | contradiction | (obtain rfl := Option.some.inj h; rfl)

lemma sign?_eq_some_iff : sign? c = some t ↔
    c = '>' ∧ t = .operator .gt ∨ c = '<' ∧ t = .operator .lt := by
  unfold sign?
  split <;> simp_all [eq_comm]

lemma slicedToken_of_no_pair (hn : cs.head?.bind (pair? c) = none) (position : ℕ) :
    slicedToken position c (c :: cs) =
      match sign? c with
      | some t => pure (t, 1)
      | none =>
        if opens ['$', '\x7b'] (c :: cs) then slicedVariable position (c :: cs)
        else slicedLiteral position c (c :: cs) := by
  have ho (a b : Char) (hp : pair? a b ≠ none) : opens [a, b] (c :: cs) = false := not_opens hn hp
  rw [slicedToken, ho '&' '&' nofun, ho '|' '|' nofun, ho '=' '=' nofun, ho '!' '=' nofun,
    ho '>' '=' nofun, ho '<' '=' nofun]
  simp only [Bool.false_eq_true, if_false]
  cases hs : sign? c with
  | some t => rcases sign?_eq_some_iff.mp hs with ⟨rfl, rfl⟩ | ⟨rfl, rfl⟩ <;> rfl
  | none =>
    rw [if_neg (by rintro rfl; contradiction), if_neg (by rintro rfl; contradiction)]

lemma slicedDollar_agrees (position : ℕ) (cs : List Char) :
    Agrees position '$' cs
      (if opens ['$', '\x7b'] ('$' :: cs) then slicedVariable position ('$' :: cs)
        else slicedLiteral position '$' ('$' :: cs))
      (variableToken position cs) := by
  by_cases ho : opens ['$', '\x7b'] ('$' :: cs) = true
  · rw [if_pos ho]
    obtain ⟨-, rest, rfl⟩ := opens_iff.mp ho
    exact slicedVariable_agrees position rest
  · rw [if_neg ho]
    unfold variableToken
    split
    · exact absurd rfl ho
    · exact .error (.inl rfl)

lemma slicedToken_agrees (position : ℕ) (c : Char) (cs : List Char) :
    Agrees position c cs (slicedToken position c (c :: cs)) (token position c cs) := by
  rw [token, symbol?]
  cases hp : cs.head?.bind (pair? c) with
  | some t =>
    obtain ⟨d, hd, hp⟩ := Option.bind_eq_some_iff.mp hp
    obtain ⟨cs, rfl⟩ := List.head?_eq_some_iff.mp hd
    rw [slicedToken_of_pair? hp, ← byteLength_of_pair? hp]
    exact .ok rfl
  | none =>
    rw [slicedToken_of_no_pair hp]
    cases hs : sign? c with
    | some t =>
      have hb : byteLength [c] = 1 := by
        rcases sign?_eq_some_iff.mp hs with ⟨rfl, -⟩ | ⟨rfl, -⟩ <;> rfl
      dsimp only [Option.map_some]
      rw [← hb]
      exact .ok rfl
    | none =>
      dsimp only [Option.map_none]
      by_cases hc : c = '$'
      · obtain rfl := hc
        exact slicedDollar_agrees position cs
      · rw [if_neg fun ho => hc (opens_iff.mp ho).1, if_neg hc]
        exact slicedLiteral_agrees position c cs

end LayeredSchema.Condition
