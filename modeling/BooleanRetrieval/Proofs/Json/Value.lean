/-
# JSON values

The grammar of values: literals, numbers, strings, and arrays and objects of any depth, with
blanks between their parts.  A value of any shape is passed over to its end and no further, and
the text is long enough to count the steps.
-/

import BooleanRetrieval.Proofs.Json.Literal

namespace BooleanRetrieval.Json

/-! ## Numbers -/

/-- A sequence of decimal digits, at least one. -/
def IsDigits (digits : List Char) : Prop :=
  digits ≠ [] ∧ ∀ c ∈ digits, c.isDigit

/-- The part of a number before its point: zero, or digits of which the first is not zero. -/
inductive IsWhole : List Char → Prop where
  | zero : IsWhole ['0']
  | digits {first : Char} {others : List Char} : first ≠ '0' → IsDigits (first :: others) →
      IsWhole (first :: others)

/-- The part of a number from its point on, perhaps missing. -/
inductive IsFraction : List Char → Prop where
  | missing : IsFraction []
  | point {digits : List Char} : IsDigits digits → IsFraction ('.' :: digits)

/-- The exponent of a number, perhaps missing. -/
inductive IsExponent : List Char → Prop where
  | missing : IsExponent []
  | plain {mark : Char} {digits : List Char} : mark = 'e' ∨ mark = 'E' → IsDigits digits →
      IsExponent (mark :: digits)
  | signed {mark sign : Char} {digits : List Char} : mark = 'e' ∨ mark = 'E' →
      sign = '+' ∨ sign = '-' → IsDigits digits → IsExponent (mark :: sign :: digits)

/-- The characters of a number: a sign if it is negative, and its three parts. -/
inductive IsNumber : List Char → Prop where
  | parts {sign whole fraction exponent : List Char} : sign = [] ∨ sign = ['-'] →
      IsWhole whole → IsFraction fraction → IsExponent exponent →
      IsNumber (sign ++ (whole ++ (fraction ++ exponent)))

/-- What may follow a number: a blank, a comma, a closing bracket or brace, or nothing. -/
def Delimits (rest : List Char) : Prop :=
  ∀ c ∈ rest.head?, isSpace c ∨ c = ',' ∨ c = ']' ∨ c = '\x7d'

section Numbers

variable {digits whole fraction exponent rest : List Char}

/-- What delimits a number is no part of one. -/
theorem Delimits.not_part (hdelimits : Delimits rest) {c : Char} (hc : c ∈ rest.head?) :
    c.isDigit = false ∧ c ≠ '.' ∧ c ≠ 'e' ∧ c ≠ 'E' := by
  have hclass := hdelimits c hc
  simp only [isSpace, Bool.or_eq_true, decide_eq_true_eq] at hclass
  rcases hclass with (((rfl | rfl) | rfl) | rfl) | rfl | rfl | rfl
  all_goals decide

theorem skipDigits_append (hdigits : IsDigits digits)
    (hrest : ∀ c ∈ rest.head?, c.isDigit = false) : skipDigits (digits ++ rest) = some rest := by
  obtain ⟨hfull, hall⟩ := hdigits
  obtain ⟨first, others, rfl⟩ := List.exists_cons_of_ne_nil hfull
  obtain ⟨hfirst, hothers⟩ := List.forall_mem_cons.mp hall
  rw [List.cons_append, skipDigits, if_pos hfirst, List.dropWhile_append_of_pos hothers]
  cases rest with
  | nil => rfl
  | cons c after => rw [List.dropWhile_cons_of_neg (by simp [hrest c rfl])]

theorem ne_sign_of_isDigit {c : Char} (hdigit : c.isDigit) : c ≠ '+' ∧ c ≠ '-' := by
  constructor
  · rintro rfl
    cases hdigit
  · rintro rfl
    cases hdigit

theorem skipExponent_append (hexponent : IsExponent exponent) (hrest : Delimits rest) :
    skipExponent (exponent ++ rest) = some rest := by
  have hstop : ∀ c ∈ rest.head?, c.isDigit = false := fun c hc => (hrest.not_part hc).1
  cases hexponent with
  | missing =>
      cases rest with
      | nil => rfl
      | cons c after =>
          obtain ⟨-, -, hsmall, hcapital⟩ := hrest.not_part (c := c) rfl
          simp [skipExponent, hsmall, hcapital]
  | @plain mark digits hmark hdigits =>
      have hskip := skipDigits_append hdigits hstop
      obtain ⟨first, others, rfl⟩ := List.exists_cons_of_ne_nil hdigits.1
      obtain ⟨hplus, hminus⟩ := ne_sign_of_isDigit (hdigits.2 first List.mem_cons_self)
      simpa [skipExponent, hmark, hplus, hminus] using hskip
  | @signed mark sign digits hmark hsign hdigits =>
      have hskip := skipDigits_append hdigits hstop
      simpa [skipExponent, hmark, hsign] using hskip

/-- An exponent, or what follows in its place, ends a fraction. -/
theorem head_exponent (hexponent : IsExponent exponent) (hrest : Delimits rest) :
    ∀ c ∈ (exponent ++ rest).head?, c.isDigit = false ∧ c ≠ '.' := by
  intro c hc
  cases hexponent with
  | missing =>
      obtain ⟨hdigit, hpoint, -⟩ := hrest.not_part hc
      exact ⟨hdigit, hpoint⟩
  | plain hmark =>
      cases hc
      rcases hmark with rfl | rfl
      all_goals decide
  | signed hmark =>
      cases hc
      rcases hmark with rfl | rfl
      all_goals decide

theorem skipFraction_append (hfraction : IsFraction fraction)
    (hrest : ∀ c ∈ rest.head?, c.isDigit = false ∧ c ≠ '.') :
    skipFraction (fraction ++ rest) = some rest := by
  cases hfraction with
  | missing =>
      cases rest with
      | nil => rfl
      | cons c after =>
          have hpoint := (hrest c rfl).2
          simp [skipFraction, hpoint]
  | point hdigits =>
      rw [List.cons_append, skipFraction]
      exact skipDigits_append hdigits fun c hc => (hrest c hc).1

/-- A fraction, or what follows in its place, ends a whole part. -/
theorem head_fraction (hfraction : IsFraction fraction)
    (hrest : ∀ c ∈ rest.head?, c.isDigit = false ∧ c ≠ '.') :
    ∀ c ∈ (fraction ++ rest).head?, c.isDigit = false := by
  intro c hc
  cases hfraction with
  | missing => exact (hrest c hc).1
  | point =>
      cases hc
      decide

theorem skipWhole_append (hwhole : IsWhole whole) (hrest : ∀ c ∈ rest.head?, c.isDigit = false) :
    skipWhole (whole ++ rest) = some rest := by
  cases hwhole with
  | zero =>
      cases rest with
      | nil => rfl
      | cons c after =>
          have hdigit := hrest c rfl
          simp [skipWhole, hdigit]
  | digits hfirst hdigits =>
      have hskip := skipDigits_append hdigits hrest
      rw [List.cons_append] at hskip ⊢
      rw [skipWhole]
      · exact hskip
      · simp [hfirst]

/-- The first character of a whole part is a digit. -/
theorem IsWhole.exists_cons (hwhole : IsWhole whole) :
    ∃ first others, whole = first :: others ∧ first.isDigit := by
  cases hwhole with
  | zero => exact ⟨'0', [], rfl, by decide⟩
  | digits _ hdigits => exact ⟨_, _, rfl, hdigits.2 _ List.mem_cons_self⟩

/-- A number is passed over to its end. -/
theorem skipNumber_append {number : List Char} (hnumber : IsNumber number)
    (hrest : Delimits rest) : skipNumber (number ++ rest) = some rest := by
  obtain ⟨hsign, hwhole, hfraction, hexponent⟩ := hnumber
  rename_i sign whole fraction exponent
  have hafter := head_exponent hexponent hrest
  have hparts : (do skipExponent (← skipFraction (← skipWhole
      (whole ++ (fraction ++ (exponent ++ rest)))))) = some rest := by
    rw [skipWhole_append hwhole (head_fraction hfraction hafter)]
    simp [skipFraction_append hfraction hafter, skipExponent_append hexponent hrest]
  obtain ⟨first, others, hfirst, hdigit⟩ := hwhole.exists_cons
  have hminus := (ne_sign_of_isDigit hdigit).2
  rw [skipNumber]
  rcases hsign with rfl | rfl
  · rw [List.nil_append, List.append_assoc, List.append_assoc, if_neg (by simp [hfirst, hminus])]
    exact hparts
  · rw [List.append_assoc, List.append_assoc, List.append_assoc, if_pos (by rfl)]
    exact hparts

/-- The first character of a number is a digit or the sign. -/
theorem IsNumber.exists_cons {number : List Char} (hnumber : IsNumber number) :
    ∃ first others, number = first :: others ∧ (first.isDigit ∨ first = '-') := by
  obtain ⟨hsign, hwhole, -, -⟩ := hnumber
  rcases hsign with rfl | rfl
  · obtain ⟨first, others, rfl, hdigit⟩ := hwhole.exists_cons
    exact ⟨first, _, rfl, .inl hdigit⟩
  · exact ⟨'-', _, rfl, .inr rfl⟩

end Numbers

/-! ## Values of any shape -/

/-- A text begins with what is awaited: with a value, or with what is left of an array behind
one of its elements, or of an object from a key on.  The rest comes last. -/
inductive Begins : Awaited → List Char → List Char → Prop where
  | string {chars body rest : List Char} : Spaced chars ('"' :: body) → Literal body rest →
      Begins .value chars rest
  | number {chars number rest : List Char} : Spaced chars (number ++ rest) → IsNumber number →
      Delimits rest → Begins .value chars rest
  | null {chars rest : List Char} : Spaced chars ("null".toList ++ rest) →
      Begins .value chars rest
  | truth {chars rest : List Char} (value : Bool) : IsTruth value chars rest →
      Begins .value chars rest
  | emptyArray {chars inner rest : List Char} : Spaced chars ('[' :: inner) →
      Spaced inner (']' :: rest) → Begins .value chars rest
  | array {chars inner others rest : List Char} : Spaced chars ('[' :: inner) →
      Begins .value inner others → Begins .elements others rest → Begins .value chars rest
  | emptyObject {chars inner rest : List Char} : Spaced chars ('\x7b' :: inner) →
      Spaced inner ('\x7d' :: rest) → Begins .value chars rest
  | object {chars inner rest : List Char} : Spaced chars ('\x7b' :: inner) →
      Begins .members inner rest → Begins .value chars rest
  | lastElement {chars rest : List Char} : Spaced chars (']' :: rest) →
      Begins .elements chars rest
  | nextElement {chars next others rest : List Char} : Spaced chars (',' :: next) →
      Begins .value next others → Begins .elements others rest → Begins .elements chars rest
  | lastMember {chars key colon value others rest : List Char} : Spaced chars ('"' :: key) →
      Literal key colon → Spaced colon (':' :: value) → Begins .value value others →
      Spaced others ('\x7d' :: rest) → Begins .members chars rest
  | nextMember {chars key colon value others next rest : List Char} :
      Spaced chars ('"' :: key) → Literal key colon → Spaced colon (':' :: value) →
      Begins .value value others → Spaced others (',' :: next) → Begins .members next rest →
      Begins .members chars rest

section Values

variable {awaited : Awaited} {chars rest : List Char}

theorem Spaced.dropSpace_eq {c : Char} (hspaced : Spaced chars (c :: rest))
    (hc : isSpace c = false) : dropSpace chars = c :: rest :=
  dropSpace_eq_cons_iff.mpr ⟨hspaced, hc⟩

theorem Spaced.length_lt {c : Char} (hspaced : Spaced chars (c :: rest)) :
    rest.length < chars.length :=
  hspaced.length_le

/-- What is awaited takes at least one character. -/
theorem Begins.length_lt (hbegins : Begins awaited chars rest) : rest.length < chars.length := by
  induction hbegins with
  | string hspaced hliteral => exact hliteral.length_lt.trans hspaced.length_lt
  | number hspaced hnumber =>
      obtain ⟨first, others, rfl, -⟩ := hnumber.exists_cons
      have hblanks := hspaced.length_le
      simp only [List.length_append, List.length_cons] at hblanks
      omega
  | null hspaced =>
      have hblanks := hspaced.length_le
      simp at hblanks
      omega
  | truth value hspaced =>
      have hword : 0 < (toString value).toList.length := by cases value <;> decide
      have hblanks := Spaced.length_le hspaced
      rw [List.length_append] at hblanks
      omega
  | emptyArray hspaced hclose => exact hclose.length_lt.trans hspaced.length_lt
  | array hspaced _ _ ih ih' => exact ih'.trans (ih.trans hspaced.length_lt)
  | emptyObject hspaced hclose => exact hclose.length_lt.trans hspaced.length_lt
  | object hspaced _ ih => exact ih.trans hspaced.length_lt
  | lastElement hspaced => exact hspaced.length_lt
  | nextElement hspaced _ _ ih ih' => exact ih'.trans (ih.trans hspaced.length_lt)
  | lastMember hspaced hkey hcolon _ hclose ih =>
      have hvalue := hcolon.length_lt.trans (hkey.length_lt.trans hspaced.length_lt)
      exact hclose.length_lt.trans (ih.trans hvalue)
  | nextMember hspaced hkey hcolon _ hcomma _ ih ih' =>
      have hvalue := hcolon.length_lt.trans (hkey.length_lt.trans hspaced.length_lt)
      exact ih'.trans (hcomma.length_lt.trans (ih.trans hvalue))

/-- No number begins as a blank or another value does, or with a closing bracket. -/
theorem ne_of_number_first {first d : Char} (hfirst : first.isDigit ∨ first = '-')
    (hd : d ∈ [' ', '\t', '\n', '\r', '"', '[', ']', '\x7b', 'n', 't', 'f']) : first ≠ d := by
  have hother : ∀ d ∈ [' ', '\t', '\n', '\r', '"', '[', ']', '\x7b', 'n', 't', 'f'],
      ¬(d.isDigit ∨ d = '-') := by simp [Char.isDigit]
  rintro rfl
  exact hother first hd hfirst

theorem isSpace_of_number_first {first : Char} (hfirst : first.isDigit ∨ first = '-') :
    isSpace first = false := by
  simp only [isSpace, Bool.or_eq_false_iff, decide_eq_false_iff_not]
  exact ⟨⟨⟨ne_of_number_first hfirst (by decide), ne_of_number_first hfirst (by decide)⟩,
    ne_of_number_first hfirst (by decide)⟩, ne_of_number_first hfirst (by decide)⟩

/-- A value does not begin with a closing bracket. -/
theorem Begins.exists_first (hbegins : Begins .value chars rest) :
    ∃ c others, dropSpace chars = c :: others ∧ c ≠ ']' := by
  cases hbegins with
  | string hspaced => exact ⟨_, _, hspaced.dropSpace_eq (by decide), by decide⟩
  | number hspaced hnumber =>
      obtain ⟨first, others, rfl, hfirst⟩ := hnumber.exists_cons
      exact ⟨_, _, hspaced.dropSpace_eq (isSpace_of_number_first hfirst),
        ne_of_number_first hfirst (by decide)⟩
  | null hspaced => exact ⟨_, _, hspaced.dropSpace_eq (by decide), by decide⟩
  | truth value hspaced =>
      cases value with
      | true => exact ⟨_, _, hspaced.dropSpace_eq (by decide), by decide⟩
      | false => exact ⟨_, _, hspaced.dropSpace_eq (by decide), by decide⟩
  | emptyArray hspaced => exact ⟨_, _, hspaced.dropSpace_eq (by decide), by decide⟩
  | array hspaced => exact ⟨_, _, hspaced.dropSpace_eq (by decide), by decide⟩
  | emptyObject hspaced => exact ⟨_, _, hspaced.dropSpace_eq (by decide), by decide⟩
  | object hspaced => exact ⟨_, _, hspaced.dropSpace_eq (by decide), by decide⟩

/-- The members of an object do not begin with a closing brace. -/
theorem Begins.exists_key (hbegins : Begins .members chars rest) :
    ∃ key, dropSpace chars = '"' :: key := by
  cases hbegins with
  | lastMember hspaced => exact ⟨_, hspaced.dropSpace_eq (by decide)⟩
  | nextMember hspaced => exact ⟨_, hspaced.dropSpace_eq (by decide)⟩

/-- Behind its key and the colon, a member is passed over as a value with what follows it. -/
theorem skipWithin_members {key colon value : List Char} (hspaced : Spaced chars ('"' :: key))
    (hkey : Literal key colon) (hcolon : Spaced colon (':' :: value)) (steps : Nat) :
    skipWithin (steps + 1) .members chars =
      (skipWithin steps .value value).bind fun rest =>
        match dropSpace rest with
        | '\x7d' :: rest => some rest
        | ',' :: rest => skipWithin steps .members rest
        | _ => none := by
  have hquote : expect "\"" (dropSpace chars) = some key :=
    (expect_dropSpace_eq_some_iff (by decide)).mpr hspaced
  have hvalue : expect ":" (dropSpace colon) = some value :=
    (expect_dropSpace_eq_some_iff (by decide)).mpr hcolon
  rw [skipWithin, hquote, Option.bind_eq_bind, Option.bind_some, hkey.skipString,
    Option.bind_some, hvalue]
  rfl

/-- What is awaited is passed over to its end, if there are more steps than characters. -/
theorem Begins.skipWithin (hbegins : Begins awaited chars rest) {steps : Nat}
    (hsteps : chars.length < steps) : skipWithin steps awaited chars = some rest := by
  -- Every part takes a character at least, so one step less is enough for what follows it.
  induction hbegins generalizing steps
  all_goals obtain ⟨steps, rfl⟩ := Nat.exists_eq_succ_of_ne_zero (Nat.ne_zero_of_lt hsteps)
  case string hspaced hliteral =>
    rw [Json.skipWithin, hspaced.dropSpace_eq (by decide)]
    exact hliteral.skipString
  case number hspaced hnumber hrest =>
    have hskip := skipNumber_append hnumber hrest
    obtain ⟨first, others, rfl, hfirst⟩ := hnumber.exists_cons
    rw [Json.skipWithin, hspaced.dropSpace_eq (isSpace_of_number_first hfirst)]
    split
    case h_7 => exact hskip
    all_goals
      next heq => exact absurd (List.cons.inj heq).1 (ne_of_number_first hfirst (by decide))
  case null hspaced =>
    rw [Json.skipWithin, hspaced.dropSpace_eq (by decide)]
    rfl
  case truth value hspaced =>
    cases value with
    | true =>
        rw [Json.skipWithin, hspaced.dropSpace_eq (by decide)]
        rfl
    | false =>
        rw [Json.skipWithin, hspaced.dropSpace_eq (by decide)]
        rfl
  case emptyArray hspaced hclose =>
    rw [Json.skipWithin, hspaced.dropSpace_eq (by decide)]
    simp only [hclose.dropSpace_eq (c := ']') (by decide)]
  case array hspaced hvalue helements ih ih' =>
    have hinner := hspaced.length_lt
    have hothers := hvalue.length_lt
    obtain ⟨c, after, hfirst, hc⟩ := hvalue.exists_first
    rw [Json.skipWithin, hspaced.dropSpace_eq (by decide)]
    simp only [hfirst]
    split
    · next heq => exact absurd (List.cons.inj heq).1 hc
    · rw [ih (by omega), Option.bind_some, ih' (by omega)]
  case emptyObject hspaced hclose =>
    rw [Json.skipWithin, hspaced.dropSpace_eq (by decide)]
    simp only [hclose.dropSpace_eq (c := '\x7d') (by decide)]
  case object hspaced hmembers ih =>
    have hinner := hspaced.length_lt
    obtain ⟨key, hkey⟩ := hmembers.exists_key
    rw [Json.skipWithin, hspaced.dropSpace_eq (by decide)]
    simp only [hkey]
    exact ih (by omega)
  case lastElement hspaced =>
    rw [Json.skipWithin, hspaced.dropSpace_eq (by decide)]
    rfl
  case nextElement hspaced hvalue helements ih ih' =>
    have hnext := hspaced.length_lt
    have hothers := hvalue.length_lt
    rw [Json.skipWithin, hspaced.dropSpace_eq (by decide)]
    simp only
    rw [ih (by omega), Option.bind_some, ih' (by omega)]
  case lastMember hspaced hkey hcolon hvalue hclose ih =>
    have hlength := hcolon.length_lt.trans (hkey.length_lt.trans hspaced.length_lt)
    rw [skipWithin_members hspaced hkey hcolon, ih (by omega), Option.bind_some,
      hclose.dropSpace_eq (by decide)]
    rfl
  case nextMember hspaced hkey hcolon hvalue hcomma hmembers ih ih' =>
    have hlength := hcolon.length_lt.trans (hkey.length_lt.trans hspaced.length_lt)
    have hnext := hcomma.length_lt.trans hvalue.length_lt
    rw [skipWithin_members hspaced hkey hcolon, ih (by omega), Option.bind_some,
      hcomma.dropSpace_eq (by decide)]
    exact ih' (by omega)

/-- A value of any shape is passed over to its end. -/
theorem Begins.skipValue (hbegins : Begins .value chars rest) : skipValue chars = some rest :=
  hbegins.skipWithin (Nat.lt_succ_self _)

/-- A value ends in one place only. -/
theorem Begins.unique {others : List Char} (hbegins : Begins .value chars rest)
    (hbegins' : Begins .value chars others) : rest = others :=
  Option.some.inj (hbegins.skipValue.symm.trans hbegins'.skipValue)

theorem IsText.begins {value : String} (htext : IsText value chars rest) :
    Begins .value chars rest := by
  obtain ⟨body, hspaced, hspells⟩ := htext
  exact .string hspaced hspells.literal

end Values

/-! ## Objects by their members -/

/-- A text begins with a member: a name, a colon, and a value of the given form. -/
def Named (form : List Char → List Char → Prop) (name : String) (chars rest : List Char) : Prop :=
  ∃ colon value, IsText name chars colon ∧ Spaced colon (':' :: value) ∧ form value rest

/-- A text begins with the members of an object, from the first key to the closing brace.  They
stand for a list of items. -/
inductive Members {α : Type} (member : α → List Char → List Char → Prop) :
    List α → List Char → List Char → Prop where
  | last {item : α} {chars others rest : List Char} : member item chars others →
      Spaced others ('\x7d' :: rest) → Members member [item] chars rest
  | next {item : α} {items : List α} {chars others next rest : List Char} :
      member item chars others → Spaced others (',' :: next) → Members member items next rest →
      Members member (item :: items) chars rest

/-- A text is an object whose members stand for a list of items, with blanks around it. -/
def IsObject {α : Type} (member : α → List Char → List Char → Prop) (items : List α)
    (text : String) : Prop :=
  ∃ inner rest, Spaced text.toList ('\x7b' :: inner) ∧ Spaced rest [] ∧
    (items = [] ∧ Spaced inner ('\x7d' :: rest) ∨ Members member items inner rest)

section Objects

variable {α : Type} {member : α → List Char → List Char → Prop} {items : List α}
  {chars rest : List Char}

theorem Named.mono {form other : List Char → List Char → Prop} {name : String}
    (hform : ∀ value rest, form value rest → other value rest)
    (hnamed : Named form name chars rest) : Named other name chars rest := by
  obtain ⟨colon, value, hname, hcolon, hvalue⟩ := hnamed
  exact ⟨colon, value, hname, hcolon, hform value rest hvalue⟩

/-- A member takes at least one character. -/
theorem Named.length_lt {name : String} (hnamed : Named (Begins .value) name chars rest) :
    rest.length < chars.length := by
  obtain ⟨colon, value, hname, hcolon, hvalue⟩ := hnamed
  exact hvalue.length_lt.trans (hcolon.length_lt.trans hname.begins.length_lt)

/-- A member that is written without blanks. -/
theorem named_quote {form : List Char → List Char → Prop} {value : List Char}
    (hvalue : form value rest) (name : String) :
    Named form name ((quote name).toList ++ ':' :: value) rest :=
  ⟨':' :: value, value, isText_quote name _, .refl _, hvalue⟩

/-- A member may be the last one of an object that is passed over. -/
theorem Named.begins_members {name : String} {others : List Char}
    (hnamed : Named (Begins .value) name chars others) (hclose : Spaced others ('\x7d' :: rest)) :
    Begins .members chars rest := by
  obtain ⟨colon, value, ⟨key, hspaced, hspells⟩, hcolon, hvalue⟩ := hnamed
  exact .lastMember hspaced hspells.literal hcolon hvalue hclose

/-- Members that take at least one character each are no more than the characters. -/
theorem Members.length_le (hmember : ∀ item chars rest, member item chars rest →
    rest.length < chars.length) (hmembers : Members member items chars rest) :
    items.length ≤ chars.length := by
  induction hmembers with
  | last hitem => exact Nat.one_le_of_lt (hmember _ _ _ hitem)
  | next hitem hcomma _ ih =>
      have hothers := hmember _ _ _ hitem
      have hnext := hcomma.length_lt
      rw [List.length_cons]
      omega

theorem Named.exists_quote {form : List Char → List Char → Prop} {name : String}
    (hnamed : Named form name chars rest) : ∃ key, dropSpace chars = '"' :: key := by
  obtain ⟨colon, value, ⟨key, hspaced, -⟩, -, -⟩ := hnamed
  exact ⟨key, hspaced.dropSpace_eq (by decide)⟩

/-- Members begin as the first of them does. -/
theorem Members.exists_first (hmembers : Members member items chars rest) :
    ∃ item others, member item chars others := by
  cases hmembers with
  | last hitem => exact ⟨_, _, hitem⟩
  | next hitem => exact ⟨_, _, hitem⟩

/-- Members that are written one after the other with commas between. -/
theorem members_intercalate {β : Type} {item : β → α} {render : β → String}
    (hrender : ∀ b rest, member (item b) ((render b).toList ++ rest) rest) {bs : List β}
    (hfull : bs ≠ []) (rest : List Char) :
    Members member (bs.map item) ((",".intercalate (bs.map render)).toList ++ '\x7d' :: rest)
      rest := by
  rw [String.toList_intercalate]
  induction bs with
  | nil => exact absurd rfl hfull
  | cons b others ih =>
      cases others with
      | nil => simpa using .last (hrender b ('\x7d' :: rest)) (.refl _)
      | cons next others =>
          have hnext := ih (List.cons_ne_nil _ _)
          have hchars :
              ",".toList.intercalate (((b :: next :: others).map render).map String.toList) =
                (render b).toList ++ ',' ::
                  ",".toList.intercalate (((next :: others).map render).map String.toList) := by
            simp
          rw [hchars, List.append_assoc]
          exact .next (hrender b _) (.refl _) hnext

end Objects

end BooleanRetrieval.Json
