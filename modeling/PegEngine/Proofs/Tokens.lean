import PegEngine.Expr.Printer
import PegEngine.Expr.Walk
import Mathlib.Data.List.Chain

/-! Tokens. The written form of an expression is a row of tokens: words, quoted texts, ranges, counts and single
signs. Where a word never stands next to another, the tokens can be told from the text that they make up. -/
namespace PegEngine

/-- A row of characters of one sort can be told from a text that it begins, if no other of the sort follows. -/
theorem append_inj_of_stops {accepts : Char → Bool} {cs cs' r r' : List Char}
    (all : ∀ c ∈ cs, accepts c = true) (all' : ∀ c ∈ cs', accepts c = true)
    (stops : ∀ c ∈ r.head?, accepts c = false) (stops' : ∀ c ∈ r'.head?, accepts c = false)
    (same : cs ++ r = cs' ++ r') : cs = cs' ∧ r = r' := by
  have ended {r : List Char} (stops : ∀ c ∈ r.head?, accepts c = false) : r.takeWhile accepts = [] := by
    cases r with
    | nil => rfl
    | cons c rest => rw [List.takeWhile_cons, stops c rfl, if_neg Bool.false_ne_true]
  have rows := congrArg (List.takeWhile accepts) same
  rw [List.takeWhile_append_of_pos all, List.takeWhile_append_of_pos all', ended stops, ended stops',
    List.append_nil, List.append_nil] at rows
  subst rows
  exact ⟨rfl, List.append_cancel_left same⟩

/-! ## Escapes -/

namespace Text

/-- A mark between two of which text can be quoted. -/
def IsMark (mark : Char) : Prop :=
  mark = '\x27' ∨ mark = '\x22'

theorem toDigits_sixteen_inj {m n : Nat} (same : Nat.toDigits 16 m = Nat.toDigits 16 n) : m = n := by
  have digits : ∀ a < 16, ∀ b < 16, Nat.digitChar a = Nat.digitChar b → a = b := by decide
  have several (a : Nat) (c d : Char) : [c] ≠ Nat.toDigits 16 a ++ [d] := fun short => by
    have lengths := congrArg List.length short
    have positive : 0 < (Nat.toDigits 16 a).length := Nat.length_toDigits_pos
    rw [List.length_append, List.length_singleton, List.length_singleton] at lengths
    omega
  induction m using Nat.strongRecOn generalizing n with
  | _ m ih =>
    rw [Nat.toDigits_eq_if (by decide), Nat.toDigits_eq_if (by decide) (n := n)] at same
    by_cases small : m < 16
    · by_cases small' : n < 16
      · rw [if_pos small, if_pos small'] at same
        exact digits m small n small' (List.singleton_inj.mp same)
      · rw [if_pos small, if_neg small'] at same
        exact absurd same (several _ _ _)
    · by_cases small' : n < 16
      · rw [if_neg small, if_pos small'] at same
        exact absurd same.symm (several _ _ _)
      · rw [if_neg small, if_neg small'] at same
        obtain ⟨leading, last⟩ := List.append_inj' same rfl
        have quotients : m / 16 = n / 16 := ih (m / 16) (by omega) leading
        have remainders : m % 16 = n % 16 := digits _ (Nat.mod_lt m (by decide)) _
          (Nat.mod_lt n (by decide)) (List.singleton_inj.mp last)
        omega

/-- A character that is no digit does not stand in a number. -/
theorem notMem_toDigits_sixteen {c : Char} (noDigit : ∀ a < 16, c ≠ Nat.digitChar a) (n : Nat) :
    c ∉ Nat.toDigits 16 n := by
  induction n using Nat.strongRecOn with
  | _ n ih =>
    rw [Nat.toDigits_eq_if (by decide)]
    split
    · next small => exact fun mem => noDigit n small (List.mem_singleton.mp mem)
    · next large =>
      intro mem
      rcases List.mem_append.mp mem with leading | last
      · exact ih (n / 16) (by omega) leading
      · exact noDigit _ (Nat.mod_lt n (by decide)) (List.mem_singleton.mp last)

section Escapes

variable {mark c c' letter : Char} (quotes : IsMark mark)
include quotes

theorem escapeLetter?_ne_u (escaped : escapeLetter? mark c = some letter) : letter ≠ 'u' := by
  rintro rfl
  rcases quotes with rfl | rfl <;> grind [escapeLetter?]

theorem escapeLetter?_inj (escaped : escapeLetter? mark c = some letter)
    (escaped' : escapeLetter? mark c' = some letter) : c = c' := by
  rcases quotes with rfl | rfl <;> grind [escapeLetter?]

omit quotes in
/-- What has no escape letter is neither the mark nor a backslash. -/
theorem ne_of_escapeLetter?_eq_none (unescaped : escapeLetter? mark c = none) : c ≠ mark ∧ c ≠ '\\' := by
  grind [escapeLetter?]

omit quotes in
/-- An escape is a letter behind a backslash, the character itself, or its number. -/
theorem escape_cases (mark c : Char) :
    (∃ letter, escapeLetter? mark c = some letter ∧
      ∀ r, escape mark c ++ r = '\\' :: letter :: r) ∨
    (c ≠ mark ∧ c ≠ '\\' ∧ ∀ r, escape mark c ++ r = c :: r) ∨
    ∀ r, escape mark c ++ r =
      '\\' :: 'u' :: '\x7b' :: (Nat.toDigits 16 c.toNat ++ '\x7d' :: r) := by
  rw [escape]
  cases escaped : escapeLetter? mark c with
  | some letter => exact Or.inl ⟨letter, rfl, fun _ => rfl⟩
  | none =>
    obtain ⟨notMark, notBackslash⟩ := ne_of_escapeLetter?_eq_none escaped
    dsimp only
    split
    · exact Or.inr (Or.inl ⟨notMark, notBackslash, fun _ => rfl⟩)
    · exact Or.inr (Or.inr fun r => by simp)

/-- An escape does not begin like the closing mark. -/
theorem escape_append_ne (r r' : List Char) : escape mark c ++ r ≠ mark :: r' := by
  have backslash : '\\' ≠ mark := by rcases quotes with rfl | rfl <;> decide
  rcases escape_cases mark c with ⟨letter, _, text⟩ | ⟨notMark, _, text⟩ | text
  · rw [text]
    exact fun same => backslash (List.cons.inj same).1
  · rw [text]
    exact fun same => notMark (List.cons.inj same).1
  · rw [text]
    exact fun same => backslash (List.cons.inj same).1

/-- The character that an escape stands for can be told from it, and so can where the escape ends. -/
theorem escape_append_inj {r r' : List Char} (same : escape mark c ++ r = escape mark c' ++ r') :
    c = c' ∧ r = r' := by
  rcases escape_cases mark c with ⟨letter, escaped, text⟩ | ⟨_, plain, text⟩ | text <;>
    rcases escape_cases mark c' with ⟨letter', escaped', text'⟩ | ⟨_, plain', text'⟩ | text' <;>
    rw [text, text'] at same <;> obtain ⟨first, rest⟩ := List.cons.inj same
  · obtain ⟨rfl, behind⟩ := List.cons.inj rest
    exact ⟨escapeLetter?_inj quotes escaped escaped', behind⟩
  · exact absurd first.symm plain'
  · exact absurd (List.cons.inj rest).1 (escapeLetter?_ne_u quotes escaped)
  · exact absurd first plain
  · exact ⟨first, rest⟩
  · exact absurd first plain
  · exact absurd (List.cons.inj rest).1.symm (escapeLetter?_ne_u quotes escaped')
  · exact absurd first.symm plain'
  · have digit (n : Nat) : ∀ d ∈ Nat.toDigits 16 n, (d != '\x7d') = true := fun d mem =>
      bne_iff_ne.mpr fun same => notMem_toDigits_sixteen (by decide) n (same ▸ mem)
    obtain ⟨digits, behind⟩ := append_inj_of_stops (digit _) (digit _) (by simp) (by simp)
      (List.cons.inj (List.cons.inj rest).2).2
    exact ⟨Char.toNat_inj.mp (toDigits_sixteen_inj digits), (List.cons.inj behind).2⟩

/-- So can what stands between two marks, and where it ends. -/
theorem escapes_append_inj {cs cs' r r' : List Char}
    (same : cs.flatMap (escape mark) ++ mark :: r = cs'.flatMap (escape mark) ++ mark :: r') :
    cs = cs' ∧ r = r' := by
  induction cs generalizing cs' with
  | nil =>
    cases cs' with
    | nil => exact ⟨rfl, (List.cons.inj same).2⟩
    | cons c' rest' =>
      rw [List.flatMap_cons, List.append_assoc] at same
      exact absurd same.symm (escape_append_ne quotes _ _)
  | cons c rest ih =>
    rw [List.flatMap_cons, List.append_assoc] at same
    cases cs' with
    | nil => exact absurd same (escape_append_ne quotes _ _)
    | cons c' rest' =>
      rw [List.flatMap_cons, List.append_assoc] at same
      obtain ⟨rfl, behind⟩ := escape_append_inj quotes same
      obtain ⟨rfl, ended⟩ := ih behind
      exact ⟨rfl, ended⟩

theorem quoteWith_append_inj {cs cs' r r' : List Char}
    (same : (quoteWith mark cs).toList ++ r = (quoteWith mark cs').toList ++ r') :
    cs = cs' ∧ r = r' := by
  rw [quoteWith, quoteWith, String.toList_ofList, String.toList_ofList, List.cons_append,
    List.cons_append, List.append_assoc, List.append_assoc] at same
  exact escapes_append_inj quotes (List.cons.inj same).2

end Escapes

end Text

/-! ## Counts -/

namespace Expr

theorem toDigits_ten_inj {m n : Nat} (same : Nat.toDigits 10 m = Nat.toDigits 10 n) : m = n := by
  have value (n : Nat) : Nat.ofDigitChars 10 (Nat.toDigits 10 n) 0 = n :=
    Nat.ofDigitChars_toDigits (by decide) (by decide)
  rw [← value m, same, value n]

/-- A maximum as it is written in a count. -/
def maximumText (max : Nat) : List Char :=
  if max = 0 then [] else Nat.toDigits 10 max

theorem maximumText_inj {max max' : Nat} (same : maximumText max = maximumText max') : max = max' := by
  rw [maximumText, maximumText] at same
  split at same
  · next unbounded =>
    split at same
    · next unbounded' => rw [unbounded, unbounded']
    · exact absurd same.symm Nat.toDigits_ne_nil
  · split at same
    · exact absurd same Nat.toDigits_ne_nil
    · exact toDigits_ten_inj same

/-- A count is a star, a plus, or a minimum and a maximum in braces. -/
theorem renderCount_cases (min max : Nat) :
    (min = 0 ∧ max = 0 ∧ ∀ r, (renderCount min max).toList ++ r = '*' :: r) ∨
    (min = 1 ∧ max = 0 ∧ ∀ r, (renderCount min max).toList ++ r = '+' :: r) ∨
    ∀ r, (renderCount min max).toList ++ r =
      '\x7b' :: (Nat.toDigits 10 min ++ ',' :: (maximumText max ++ '\x7d' :: r)) := by
  unfold renderCount
  split
  · exact Or.inl ⟨rfl, rfl, fun _ => rfl⟩
  · exact Or.inr (Or.inl ⟨rfl, rfl, fun _ => rfl⟩)
  · exact Or.inr (Or.inr fun r => by simp [maximumText])
  · next bounded _ _ =>
    have positive : max ≠ 0 := bounded
    exact Or.inr (Or.inr fun r => by simp [maximumText, positive])

/-- The bounds can be told from a count, and so can where it ends. -/
theorem renderCount_append_inj {min max min' max' : Nat} {r r' : List Char}
    (same : (renderCount min max).toList ++ r = (renderCount min' max').toList ++ r') :
    min = min' ∧ max = max' ∧ r = r' := by
  have digit (n : Nat) : ∀ c ∈ Nat.toDigits 10 n, c.isDigit = true := fun c mem =>
    Nat.isDigit_of_mem_toDigits (by decide) (by decide) mem
  have maximumDigit (n : Nat) : ∀ c ∈ maximumText n, c.isDigit = true := by
    rw [maximumText]
    split
    · exact nofun
    · exact digit n
  rcases renderCount_cases min max with ⟨rfl, rfl, text⟩ | ⟨rfl, rfl, text⟩ | text <;>
    rcases renderCount_cases min' max' with ⟨rfl, rfl, text'⟩ | ⟨rfl, rfl, text'⟩ | text' <;>
    rw [text, text'] at same <;> obtain ⟨first, rest⟩ := List.cons.inj same
  · exact ⟨rfl, rfl, rest⟩
  · cases first
  · cases first
  · cases first
  · exact ⟨rfl, rfl, rest⟩
  · cases first
  · cases first
  · cases first
  · obtain ⟨minimum, behind⟩ := append_inj_of_stops (digit _) (digit _) (by simp) (by simp) rest
    obtain ⟨maximum, ended⟩ := append_inj_of_stops (maximumDigit _) (maximumDigit _) (by simp) (by simp)
      (List.cons.inj behind).2
    exact ⟨toDigits_ten_inj minimum, maximumText_inj maximum, (List.cons.inj ended).2⟩

end Expr

/-! ## Tokens -/

/-- A piece of a written form. -/
inductive Token where
  /-- A name, or one of the words that the notation has of its own. -/
  | word (chars : List Char)
  /-- Characters between two marks. -/
  | quoted (mark : Char) (chars : List Char)
  | range (low high : Char)
  | count (min max : Nat)
  /-- A bracket, an operator or a blank. -/
  | sign (c : Char)

namespace Token

def text : Token → List Char
  | word chars => chars
  | quoted mark chars => (Text.quoteWith mark chars).toList
  | range low high =>
    '[' :: ((Text.quoteChar low).toList ++ '-' :: ((Text.quoteChar high).toList ++ [']']))
  | count min max => (Expr.renderCount min max).toList
  | sign c => [c]

/-- Whether a character can stand in a name: a lower-case letter, a digit, an underscore, or any beyond ASCII. -/
def isNameChar (c : Char) : Bool :=
  c.isLower || c.isDigit || c == '_' || decide (128 ≤ c.toNat)

/-- Whether a character can stand in a word. The words that the notation has of its own may be in capitals. -/
def isWordChar (c : Char) : Bool :=
  isNameChar c || c.isUpper

/-- The characters that are tokens by themselves. -/
def signs : List Char :=
  ['(', ')', '<', '>', '!', '&', '?', '.', '/', ' ', ':']

/-- The token is one that occurs in the notation. -/
def Sound : Token → Prop
  | word chars => chars ≠ [] ∧ chars.all isWordChar = true
  | quoted mark _ => Text.IsMark mark
  | sign c => c ∈ signs
  | range _ _ | count _ _ => True

def isWord : Token → Bool
  | word _ => true
  | quoted _ _ | range _ _ | count _ _ | sign _ => false

/-- The tokens by sorts. -/
def sort : Token → Nat
  | word _ => 0
  | quoted _ _ => 1
  | range _ _ => 2
  | count _ _ => 3
  | sign _ => 4

/-- The sort of the tokens that begin with a character. -/
def sortOf (c : Char) : Nat :=
  if isWordChar c then 0
  else if c = '\x27' ∨ c = '\x22' then 1
  else if c = '[' then 2
  else if c = '*' ∨ c = '+' ∨ c = '\x7b' then 3
  else 4

variable {t u : Token} {r r' : List Char}

/-- The first character of a token tells its sort. -/
theorem Sound.text_eq_cons (sound : t.Sound) : ∃ c rest, t.text = c :: rest ∧ sortOf c = t.sort := by
  cases t with
  | word chars =>
    obtain ⟨nonempty, wordChars⟩ := sound
    obtain ⟨c, rest, rfl⟩ := List.exists_cons_of_ne_nil nonempty
    exact ⟨c, rest, rfl, if_pos (List.all_eq_true.mp wordChars c List.mem_cons_self)⟩
  | quoted mark chars =>
    refine ⟨mark, _, by rw [text, Text.quoteWith, String.toList_ofList, List.cons_append], ?_⟩
    rcases sound with rfl | rfl <;> rfl
  | range low high => exact ⟨'[', _, rfl, rfl⟩
  | count min max =>
    rcases Expr.renderCount_cases min max with ⟨_, _, shown⟩ | ⟨_, _, shown⟩ | shown
    all_goals
      refine ⟨_, _, (List.append_nil _).symm.trans (shown []), rfl⟩
  | sign c =>
    refine ⟨c, [], rfl, ?_⟩
    have all : signs.all (fun c => sortOf c == 4) = true := by decide
    exact beq_iff_eq.mp (List.all_eq_true.mp all c sound)

/-- The token ends in front of such a text: it is not a word that could go on there. -/
def Ends (t : Token) (r : List Char) : Prop :=
  t.isWord = true → ∀ c ∈ r.head?, isWordChar c = false

/-- A token can be told from a text that begins with it, and so can where it ends. -/
theorem text_append_inj (sound : t.Sound) (sound' : u.Sound) (ends : t.Ends r) (ends' : u.Ends r')
    (same : t.text ++ r = u.text ++ r') : t = u ∧ r = r' := by
  have sorts : t.sort = u.sort := by
    obtain ⟨c, rest, begins, sort⟩ := sound.text_eq_cons
    obtain ⟨c', rest', begins', sort'⟩ := sound'.text_eq_cons
    rw [begins, begins'] at same
    rw [← sort, ← sort', (List.cons.inj same).1]
  cases t with
  | word chars =>
    cases u with
    | word chars' =>
      obtain ⟨rfl, behind⟩ := append_inj_of_stops (List.all_eq_true.mp sound.2)
        (List.all_eq_true.mp sound'.2) (ends rfl) (ends' rfl) same
      exact ⟨rfl, behind⟩
    | _ => cases sorts
  | quoted mark chars =>
    cases u with
    | quoted mark' chars' =>
      obtain rfl : mark = mark' := by
        rw [text, text, Text.quoteWith, Text.quoteWith, String.toList_ofList, String.toList_ofList] at same
        exact (List.cons.inj same).1
      obtain ⟨rfl, behind⟩ := Text.quoteWith_append_inj sound same
      exact ⟨rfl, behind⟩
    | _ => cases sorts
  | range low high =>
    cases u with
    | range low' high' =>
      have quotes : Text.IsMark '\x27' := Or.inl rfl
      simp only [text, List.cons_append, List.append_assoc] at same
      obtain ⟨lows, rest⟩ := Text.quoteWith_append_inj quotes (List.cons.inj same).2
      obtain ⟨highs, behind⟩ := Text.quoteWith_append_inj quotes (List.cons.inj rest).2
      obtain rfl := List.singleton_inj.mp lows
      obtain rfl := List.singleton_inj.mp highs
      exact ⟨rfl, (List.cons.inj behind).2⟩
    | _ => cases sorts
  | count min max =>
    cases u with
    | count min' max' =>
      obtain ⟨rfl, rfl, behind⟩ := Expr.renderCount_append_inj same
      exact ⟨rfl, behind⟩
    | _ => cases sorts
  | sign c =>
    cases u with
    | sign c' =>
      obtain ⟨rfl, behind⟩ := List.cons.inj same
      exact ⟨rfl, behind⟩
    | _ => cases sorts

/-! ## Rows of tokens -/

/-- Tokens of the notation one after the other, no word next to another. -/
structure Row (ts : List Token) : Prop where
  sound : ∀ t ∈ ts, t.Sound
  apart : ts.IsChain fun t u => t.isWord = true → u.isWord = false

/-- The token is one of the notation, and no word. -/
structure Joins (t : Token) : Prop where
  sound : t.Sound
  noWord : t.isWord = false

theorem joins_sign {c : Char} (listed : c ∈ signs) : (sign c).Joins :=
  ⟨listed, rfl⟩

theorem joins_count (min max : Nat) : (count min max).Joins :=
  ⟨trivial, rfl⟩

namespace Row

variable {ts us : List Token}

theorem nil : Row [] :=
  ⟨nofun, .nil⟩

theorem singleton (sound : t.Sound) : Row [t] :=
  ⟨List.forall_mem_singleton.mpr sound, .singleton t⟩

/-- Rows can be joined by a token that is not a word. -/
theorem join (left : Row ts) (joins : t.Joins) (right : Row us) : Row (ts ++ t :: us) where
  sound := by
    intro u mem
    rcases List.mem_append.mp mem with before | behind
    · exact left.sound u before
    · rcases List.mem_cons.mp behind with rfl | behind
      · exact joins.sound
      · exact right.sound u behind
  apart := by
    refine List.isChain_append.mpr ⟨left.apart, List.isChain_cons.mpr ⟨fun u _ isWord => ?_, right.apart⟩,
      fun u _ v first _ => ?_⟩
    · rw [joins.noWord] at isWord
      cases isWord
    · cases first
      exact joins.noWord

theorem cons (joins : t.Joins) (right : Row us) : Row (t :: us) :=
  nil.join joins right

theorem concat (left : Row ts) (joins : t.Joins) : Row (ts ++ [t]) :=
  left.join joins nil

/-- The first token of a row ends where the next one begins. -/
theorem ends (row : Row (t :: ts)) : t.Ends (ts.flatMap text) := by
  intro isWord c first
  cases ts with
  | nil => cases first
  | cons u us =>
    obtain ⟨d, rest, begins, sort⟩ := (row.sound u (.tail _ List.mem_cons_self)).text_eq_cons
    rw [List.flatMap_cons, begins] at first
    cases first
    have other : u.isWord = false := (List.isChain_cons_cons.mp row.apart).1 isWord
    by_contra wordChar
    rw [sortOf, if_pos (eq_true_of_ne_false wordChar)] at sort
    cases u with
    | word chars => cases other
    | _ => cases sort

theorem tail (row : Row (t :: ts)) : Row ts :=
  ⟨fun u mem => row.sound u (.tail _ mem), row.apart.tail⟩

/-- The tokens of a row can be told from the text that they make up. -/
theorem eq_of_text_eq (row : Row ts) (row' : Row us) (same : ts.flatMap text = us.flatMap text) :
    ts = us := by
  have nonempty {t : Token} {ts : List Token} (row : Row (t :: ts)) :
      [] ≠ (t :: ts).flatMap text := by
    obtain ⟨c, rest, begins, -⟩ := (row.sound t List.mem_cons_self).text_eq_cons
    rw [List.flatMap_cons, begins]
    exact (List.cons_ne_nil _ _).symm
  induction ts generalizing us with
  | nil =>
    cases us with
    | nil => rfl
    | cons u us => exact absurd same (nonempty row')
  | cons t ts ih =>
    cases us with
    | nil => exact absurd same.symm (nonempty row)
    | cons u us =>
      obtain ⟨rfl, rest⟩ := text_append_inj (row.sound t List.mem_cons_self)
        (row'.sound u List.mem_cons_self) row.ends row'.ends same
      rw [ih row.tail row'.tail rest]

end Row

end Token

/-! ## Expressions as rows of tokens -/

namespace Expr

/-- What stands between the members of a choice, or of a sequence. -/
def separator (slashed : Bool) : List Token :=
  if slashed then [.sign ' ', .sign '/', .sign ' '] else [.sign ' ']

mutual

/-- The tokens of which the written form of an expression consists. -/
def tokens : Expr → List Token
  | char c => [.quoted '\x27' [c]]
  | literal text => [.quoted '\x22' text.toList]
  | seq items => .sign '(' :: ((separator false).intercalate (tokensAll items) ++ [.sign ')'])
  | choice alternatives =>
    .sign '(' :: ((separator true).intercalate (tokensAll alternatives) ++ [.sign ')'])
  | optional body => body.tokens ++ [.sign '?']
  | rep min max body => body.tokens ++ [.count min max]
  | not body => .sign '!' :: body.tokens
  | peek body => .sign '&' :: body.tokens
  | capture name body =>
    if name.isEmpty then .sign '<' :: (body.tokens ++ [.sign '>'])
    else .sign '<' :: .word name.toList :: .sign ':' :: .sign ' ' :: (body.tokens ++ [.sign '>'])
  | any => [.sign '.']
  | anyBut body => .sign '(' :: .sign '!' :: (body.tokens ++ [.sign ' ', .sign '.', .sign ')'])
  | range low high => [.range low high]
  | eof => [.word "EOF".toList]
  | eol => [.word "EOL".toList]
  | space => [.word "SPACE".toList]
  | ref name => [.word name.toList]
  | verbatim body => .word "ignore".toList :: .sign '(' :: (body.tokens ++ [.sign ')'])

/-- The tokens of the expressions of a list. -/
def tokensAll : List Expr → List (List Token)
  | [] => []
  | e :: rest => e.tokens :: tokensAll rest

end

theorem tokensAll_eq_map (es : List Expr) : tokensAll es = es.map tokens := by
  induction es with
  | nil => rfl
  | cons e rest ih => rw [tokensAll, ih, List.map_cons]

/-- What is true of an expression if it is true of its parts is true of all. -/
theorem byParts {motive : Expr → Prop}
    (whole : ∀ e, (∀ part ∈ e.parts, motive part) → motive e) (e : Expr) : motive e :=
  whole e fun part _ => byParts whole part
termination_by e.size
decreasing_by exact size_lt_of_mem_parts ‹_›

/-- The listing of an expression lists all that the listings of its parts do. -/
theorem mem_preorder_of_part {e part f : Expr} (mem : part ∈ e.parts) (listed : f ∈ part.preorder) :
    f ∈ e.preorder := by
  rw [preorder_eq, preorderAll_eq_flatMap]
  exact List.mem_cons_of_mem _ (List.mem_flatMap.mpr ⟨part, mem, listed⟩)

/-! ## Names -/

/-- The text is made up of lower-case letters, digits and underscores, and of characters beyond ASCII. -/
def IsName (name : String) : Prop :=
  name ≠ "" ∧ name.toList.all Token.isNameChar = true

/-- If the expression itself holds a name, it is a proper one. A capture may have none. -/
def NamedHere : Expr → Prop
  | ref name => IsName name
  | capture name _ => name = "" ∨ IsName name
  | char _ | literal _ | seq _ | choice _ | optional _ | rep _ _ _ | not _ | peek _ | any | anyBut _
  | range _ _ | eof | eol | space | verbatim _ => True

/-- All names in the expression are proper ones. -/
def Named (e : Expr) : Prop :=
  ∀ f ∈ e.preorder, f.NamedHere

theorem Named.here {e : Expr} (named : e.Named) : e.NamedHere :=
  named e e.mem_preorder_self

theorem Named.part {e part : Expr} (named : e.Named) (mem : part ∈ e.parts) : part.Named :=
  fun f listed => named f (mem_preorder_of_part mem listed)

theorem IsName.sound {name : String} (proper : IsName name) : (Token.word name.toList).Sound := by
  refine ⟨fun empty => proper.1 (String.toList_eq_nil_iff.mp empty), ?_⟩
  refine List.all_eq_true.mpr fun c mem => ?_
  rw [Token.isWordChar, List.all_eq_true.mp proper.2 c mem, Bool.true_or]

/-! ## Rows -/

theorem row_intercalate (slashed : Bool) {rows : List (List Token)} (each : ∀ row ∈ rows, Token.Row row) :
    Token.Row ((separator slashed).intercalate rows) := by
  have blank : (Token.sign ' ').Joins := Token.joins_sign (by decide)
  have slash : (Token.sign '/').Joins := Token.joins_sign (by decide)
  induction rows with
  | nil => exact .nil
  | cons row rest ih =>
    obtain ⟨first, others⟩ := List.forall_mem_cons.mp each
    cases rest with
    | nil =>
      rw [List.intercalate_singleton]
      exact first
    | cons next rest =>
      rw [List.intercalate_cons_cons, List.append_assoc]
      cases slashed with
      | false => exact first.join blank (ih others)
      | true => exact first.join blank (.cons slash (.cons blank (ih others)))

/-- The tokens of an expression make up a row. -/
theorem row_tokens {e : Expr} (named : e.Named) : Token.Row e.tokens := by
  induction e using byParts with
  | whole e ih =>
    have parts (part : Expr) (mem : part ∈ e.parts) : Token.Row part.tokens := ih part mem (named.part mem)
    have group (slashed : Bool) {es : List Expr} (each : ∀ e ∈ es, Token.Row e.tokens) : Token.Row
        (.sign '(' :: ((separator slashed).intercalate (tokensAll es) ++ [.sign ')'])) := by
      rw [tokensAll_eq_map]
      have members := row_intercalate slashed (List.forall_mem_map.mpr each)
      exact .cons (Token.joins_sign (by decide)) (members.concat (Token.joins_sign (by decide)))
    cases e with
    | char c => exact .singleton (Or.inl rfl)
    | literal text => exact .singleton (Or.inr rfl)
    | seq items => exact group false parts
    | choice alternatives => exact group true parts
    | optional body =>
      have inside := parts body (List.mem_singleton_self _)
      exact inside.concat (Token.joins_sign (by decide))
    | rep min max body =>
      have inside := parts body (List.mem_singleton_self _)
      exact inside.concat (Token.joins_count min max)
    | not body =>
      have inside := parts body (List.mem_singleton_self _)
      exact .cons (Token.joins_sign (by decide)) inside
    | peek body =>
      have inside := parts body (List.mem_singleton_self _)
      exact .cons (Token.joins_sign (by decide)) inside
    | capture name body =>
      have inside := parts body (List.mem_singleton_self _)
      have closed : Token.Row (body.tokens ++ [.sign '>']) := inside.concat (Token.joins_sign (by decide))
      rw [tokens]
      split
      · exact .cons (Token.joins_sign (by decide)) closed
      · next nonempty =>
        have proper : IsName name := named.here.resolve_left fun empty => nonempty (by rw [empty]; rfl)
        have label : Token.Row [.word name.toList] := .singleton proper.sound
        exact .cons (Token.joins_sign (by decide))
          (label.join (Token.joins_sign (by decide)) (.cons (Token.joins_sign (by decide)) closed))
    | any => exact .singleton (Token.joins_sign (by decide)).sound
    | anyBut body =>
      have inside := parts body (List.mem_singleton_self _)
      have behind : Token.Row [.sign '.', .sign ')'] :=
        .cons (Token.joins_sign (by decide)) (.singleton (Token.joins_sign (by decide)).sound)
      exact .cons (Token.joins_sign (by decide))
        (.cons (Token.joins_sign (by decide)) (inside.join (Token.joins_sign (by decide)) behind))
    | range low high => exact .singleton trivial
    | eof => exact .singleton ⟨by decide, by decide⟩
    | eol => exact .singleton ⟨by decide, by decide⟩
    | space => exact .singleton ⟨by decide, by decide⟩
    | ref name => exact .singleton (IsName.sound named.here)
    | verbatim body =>
      have inside := parts body (List.mem_singleton_self _)
      have word : Token.Row [.word "ignore".toList] := .singleton ⟨by decide, by decide⟩
      exact word.join (Token.joins_sign (by decide)) (inside.concat (Token.joins_sign (by decide)))

/-! ## Written forms -/

theorem flatMap_intercalate {α β : Type} (f : α → List β) (between : List α) (rows : List (List α)) :
    (between.intercalate rows).flatMap f = (between.flatMap f).intercalate (rows.map (·.flatMap f)) := by
  induction rows with
  | nil => rfl
  | cons row rest ih =>
    cases rest with
    | nil => rw [List.map_singleton, List.intercalate_singleton, List.intercalate_singleton]
    | cons next rest =>
      rw [List.map_cons, List.map_cons, List.intercalate_cons_cons, List.intercalate_cons_cons,
        List.flatMap_append, List.flatMap_append, ih, List.map_cons]

/-- The written form of an expression is made up of its tokens. -/
theorem render_eq_tokens (e : Expr) : e.render.toList = e.tokens.flatMap Token.text := by
  induction e using byParts with
  | whole e ih =>
    have members {es : List Expr} (each : ∀ e ∈ es, e.render.toList = e.tokens.flatMap Token.text) :
        (renderAll es).map String.toList = (tokensAll es).map (·.flatMap Token.text) := by
      rw [renderAll_eq_map, tokensAll_eq_map, List.map_map, List.map_map]
      exact List.map_congr_left each
    have blank : " ".toList = (separator false).flatMap Token.text := by decide
    have slash : " / ".toList = (separator true).flatMap Token.text := by decide
    cases e with
    | seq items =>
      have inside : (renderAll items).map String.toList = _ := members ih
      rw [render, tokens, List.flatMap_cons, List.flatMap_append, flatMap_intercalate, ← inside, ← blank,
        ← String.toList_intercalate]
      simp [Token.text]
    | choice alternatives =>
      have inside : (renderAll alternatives).map String.toList = _ := members ih
      rw [render, tokens, List.flatMap_cons, List.flatMap_append, flatMap_intercalate, ← inside, ← slash,
        ← String.toList_intercalate]
      simp [Token.text]
    | capture name body =>
      have inside := ih body (List.mem_singleton_self _)
      rw [render, tokens]
      split
      · simp [Token.text, inside]
      · simp [Token.text, inside]
    | optional body | rep min max body | not body | peek body | anyBut body | verbatim body =>
      have inside := ih body (List.mem_singleton_self _)
      simp [render, tokens, Token.text, inside]
    | char c | literal text | range low high | any | eof | eol | space | ref name =>
      simp [render, tokens, Token.text, Text.quoteChar, Text.quote]

/-- Expressions with proper names that are written alike have the same tokens. -/
theorem tokens_eq_of_render_eq {e f : Expr} (named : e.Named) (named' : f.Named)
    (same : e.render = f.render) : e.tokens = f.tokens := by
  apply (row_tokens named).eq_of_text_eq (row_tokens named')
  rw [← render_eq_tokens, ← render_eq_tokens, same]

end Expr

end PegEngine
