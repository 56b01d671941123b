import Xdpd.Rest.RequestParser

/-!
# The requests that the parser accepts

What a request looks like as text: `Message`, whose fields state what each part is made of, with
`render`, and the request that it stands for.  `parse_eq_true_iff`: the parser accepts exactly the
texts of messages, wherever they end in the stream, and fills in the request of the message.
-/

namespace Xdpd.Rest

open Lib

variable {lexicalCast : List UInt8 → Option UInt64}

/-! ### The text of a request -/

def crlf : List UInt8 :=
  [code '\r', code '\n']

/-- The characters of the value of a header. -/
def isText (c : UInt8) : Bool :=
  isChar c && !isCtl c

/-- A line that goes on with the value of the header before it. -/
structure Fold where
  blanks : List UInt8
  text : List UInt8
  blanks_ne : blanks ≠ []
  blanks_ok : ∀ c ∈ blanks, isBlank c
  text_ok : ∀ c ∈ text, isText c
  text_head : text.head? ≠ some (code ' ')

/-- A header with the lines that its value goes on with. -/
structure Field where
  name : List UInt8
  text : List UInt8
  folds : List Fold
  name_ne : name ≠ []
  name_ok : ∀ c ∈ name, isToken c
  text_ok : ∀ c ∈ text, isText c

def Fold.render (f : Fold) : List UInt8 :=
  f.blanks ++ f.text ++ crlf

def Field.render (f : Field) : List UInt8 :=
  f.name ++ [code ':', code ' '] ++ f.text ++ crlf ++ f.folds.flatMap Fold.render

/-- The header that a field stands for: the blanks that start a line are dropped. -/
def Field.header (f : Field) : Header :=
  ⟨f.name, f.text ++ f.folds.flatMap Fold.text⟩

/-- Whether a header is about the length of the content. -/
def isContentLength (h : Header) : Bool :=
  headersEqual h.name contentLengthName

/-- The headers announce content of length `n`: the values of all headers about it are numbers, and
`n` is the last one, or `n₀` if there is none. -/
def Announces (lexicalCast : List UInt8 → Option UInt64) (hs : List Header) (n₀ n : UInt64) :
    Prop :=
  ∃ ns : List UInt64, (hs.filter isContentLength).map (fun h => lexicalCast h.value) =
    ns.map some ∧ n = ns.getLastD n₀

/-- A request as text. -/
structure Message (lexicalCast : List UInt8 → Option UInt64) where
  method : List UInt8
  uri : List UInt8
  major : List UInt8
  minor : List UInt8
  fields : List Field
  content : List UInt8
  contentLength : UInt64
  method_ne : method ≠ []
  method_ok : ∀ c ∈ method, isToken c
  uri_ne : uri ≠ []
  uri_ok : ∀ c ∈ uri, !isCtl c && c != code ' '
  major_ne : major ≠ []
  major_ok : ∀ c ∈ major, isDigit c
  minor_ne : minor ≠ []
  minor_ok : ∀ c ∈ minor, isDigit c
  announces : Announces lexicalCast (fields.map Field.header) 0 contentLength
  content_length : content.length = contentLength.toNat

def Message.render (m : Message lexicalCast) : List UInt8 :=
  m.method ++ code ' ' :: (m.uri ++ code ' ' :: code 'H' :: code 'T' :: code 'T' :: code 'P' ::
    code '/' :: (m.major ++ code '.' :: (m.minor ++ code '\r' :: code '\n' ::
      (m.fields.flatMap Field.render ++ crlf ++ m.content))))

/-- The request that a message stands for. -/
def Message.request (m : Message lexicalCast) : Request :=
  ⟨m.method, m.uri, m.major.foldl addDigit 0, m.minor.foldl addDigit 0, m.fields.map Field.header,
    m.content⟩

/-! ### Characters -/

lemma ne_of_isToken {c : UInt8} (h : isToken c) :
    c ≠ code ' ' ∧ c ≠ code ':' ∧ c ≠ code '\r' ∧ isBlank c = false := by
  have hblank : isBlank c = false := by
    rw [isBlank, Bool.or_eq_false_iff]
    constructor <;> refine beq_eq_false_iff_ne.mpr ?_ <;> rintro rfl <;> revert h <;> decide
  refine ⟨?_, ?_, ?_, hblank⟩ <;> rintro rfl <;> revert h <;> decide

lemma ne_of_isText {c : UInt8} (h : isText c) : c ≠ code '\r' := by
  rintro rfl
  revert h
  decide

lemma isText_and (c : UInt8) : (isText c && c != code '\r') = isText c := by
  by_cases h : isText c
  · simp [h, ne_of_isText h]
  · simp [h]

lemma isToken_and (c : UInt8) : (isToken c && c != code ' ') = isToken c ∧
    (isToken c && c != code ':') = isToken c ∧ (isToken c && c != code '\r') = isToken c := by
  by_cases h : isToken c
  · simp [h, ne_of_isToken h]
  · simp [h]

/-! ### The announced length -/

/-- The loop over the headers finds the announced length. -/
lemma readContentLength_eq_iff (hs : List Header) (n₀ n : UInt64) :
    readContentLength lexicalCast hs n₀ = (true, n) ↔ Announces lexicalCast hs n₀ n := by
  induction hs generalizing n₀ with
  | nil =>
      constructor
      · intro h
        exact ⟨[], rfl, (Prod.mk.inj h).2.symm⟩
      · rintro ⟨ns, hns, rfl⟩
        obtain rfl : ns = [] := List.map_eq_nil_iff.mp hns.symm
        rfl
  | cons h hs ih =>
      rw [readContentLength, ← isContentLength]
      by_cases hh : isContentLength h
      · rw [if_pos hh]
        rcases hcast : lexicalCast h.value with _ | n'
        · refine iff_of_false nofun ?_
          rintro ⟨ns, hns, -⟩
          rw [List.filter_cons_of_pos hh, List.map_cons, hcast] at hns
          cases ns with
          | nil => exact absurd hns nofun
          | cons n' ns => exact absurd (List.cons.inj hns).1 nofun
        · simp only
          rw [ih]
          constructor
          · rintro ⟨ns, hns, rfl⟩
            refine ⟨n' :: ns, ?_, List.getLastD_cons.symm⟩
            rw [List.filter_cons_of_pos hh, List.map_cons, hcast, hns, List.map_cons]
          · rintro ⟨ns, hns, rfl⟩
            rw [List.filter_cons_of_pos hh, List.map_cons, hcast] at hns
            cases ns with
            | nil => exact absurd hns nofun
            | cons n'' ns =>
                rw [List.map_cons] at hns
                obtain ⟨hn, htail⟩ := List.cons.inj hns
                obtain rfl := Option.some.inj hn
                exact ⟨ns, htail, List.getLastD_cons⟩
      · rw [if_neg hh, ih, Announces, Announces, List.filter_cons_of_neg hh]

/-! ### The request line -/

/-- The parser entered at `point`, before any length is announced. -/
def Request.parsing (q : Request) (point : Point) : Parsing :=
  ⟨point, 0, q⟩

variable {q : Request} {s s' : Parsing} {bs rest : List UInt8}

lemma expect_self {c : UInt8} {point : Point} : s.expect c c point = s.yield point :=
  if_neg (not_not.mpr rfl)

lemma expect_of_ne {c want : UInt8} {point : Point} (h : c ≠ want) :
    s.expect c want point = s.finish false :=
  if_pos h

lemma foldl_push (xs ys : List UInt8) : ys.foldl (fun word c => word ++ [c]) xs = xs ++ ys := by
  induction ys generalizing xs with
  | nil => exact (List.append_nil xs).symm
  | cons y ys ih => rw [List.foldl_cons, ih, List.append_assoc]; rfl

/-- A character that is expected. -/
lemma parse_expect_iff (point next : Point) (want : UInt8)
    (h : ∀ c, consume lexicalCast (q.parsing point) c = (q.parsing point).expect c want next) :
    parse lexicalCast (q.parsing point) bs = (some true, s', rest) ↔
      ∃ bs', bs = want :: bs' ∧ parse lexicalCast (q.parsing next) bs' = (some true, s', rest) := by
  refine feed_expect_iff ?_ ?_ (by decide : true ≠ false)
  · rw [h, expect_self]
    rfl
  · intro c hc
    rw [h, expect_of_ne hc]
    rfl

/-- The method is a token, with a space behind it. -/
lemma parse_method_iff (hs : s.point = .start) :
    parse lexicalCast s bs = (some true, s', rest) ↔
      ∃ word bs', bs = word ++ code ' ' :: bs' ∧ (∀ c ∈ word, isToken c) ∧ word ≠ [] ∧
        parse lexicalCast (Request.parsing ⟨word, [], 0, 0, [], []⟩ .uri) bs' =
          (some true, s', rest) := by
  -- the coroutine starts with the loop over the method
  have hstart : parse lexicalCast s bs = (some true, s', rest) ↔
      parse lexicalCast (Request.parsing ⟨[], [], 0, 0, [], []⟩ .method) bs =
        (some true, s', rest) := by
    cases bs with
    | nil => exact iff_of_false nofun nofun
    | cons c bs => rw [parse, parse, feed_cons, feed_cons, consume, hs]; rfl
  rw [hstart]
  refine (feed_collect_iff (fun word => Request.parsing ⟨word, [], 0, 0, [], []⟩ .method)
    (fun word => Request.parsing ⟨word, [], 0, 0, [], []⟩ .uri)
    (fun (word : List UInt8) c => word ++ [c]) (· ≠ []) (fun c => isToken c) ?_ ?_ ?_
    (by decide : ¬ isToken (code ' ')) (by decide : true ≠ false) []).trans ?_
  · intro word c hc
    exact if_pos ((isToken_and c).1.trans hc)
  · intro word hword
    change consumeMethod (Request.parsing ⟨word, [], 0, 0, [], []⟩ .method) (code ' ') = _
    rw [consumeMethod, if_neg (by decide), if_neg (by simpa [Request.parsing] using hword),
      expect_self]
    rfl
  · intro word c hc hno
    change (consumeMethod (Request.parsing ⟨word, [], 0, 0, [], []⟩ .method) c).1 = _
    rw [consumeMethod, (isToken_and c).1, if_neg hc]
    by_cases hword : word = []
    · rw [if_pos (by simp [Request.parsing, hword])]
      rfl
    · rw [if_neg (by simpa [Request.parsing] using hword), expect_of_ne fun h => hno ⟨hword, h⟩]
      rfl
  · simp only [foldl_push, List.nil_append]
    rfl

/-- The path runs to the next space. -/
lemma parse_uri_iff {method : List UInt8} :
    parse lexicalCast (Request.parsing ⟨method, [], 0, 0, [], []⟩ .uri) bs =
        (some true, s', rest) ↔
      ∃ word bs', bs = word ++ code ' ' :: bs' ∧ (∀ c ∈ word, !isCtl c && c != code ' ') ∧
        word ≠ [] ∧
        parse lexicalCast (Request.parsing ⟨method, word, 0, 0, [], []⟩ .protocolH) bs' =
          (some true, s', rest) := by
  refine (feed_collect_iff (fun word => Request.parsing ⟨method, word, 0, 0, [], []⟩ .uri)
    (fun word => Request.parsing ⟨method, word, 0, 0, [], []⟩ .protocolH)
    (fun (word : List UInt8) c => word ++ [c]) (· ≠ []) (fun c => !isCtl c && c != code ' ')
    ?_ ?_ ?_ (by decide : ¬ (!isCtl (code ' ') && code ' ' != code ' ')) (by decide : true ≠ false)
    []).trans ?_
  · intro word c hc
    exact if_pos hc
  · intro word hword
    change consumeUri (Request.parsing ⟨method, word, 0, 0, [], []⟩ .uri) (code ' ') = _
    rw [consumeUri, if_neg (by decide), if_neg (by simpa [Request.parsing] using hword),
      expect_self]
    rfl
  · intro word c hc hno
    change (consumeUri (Request.parsing ⟨method, word, 0, 0, [], []⟩ .uri) c).1 = _
    rw [consumeUri, if_neg hc]
    by_cases hword : word = []
    · rw [if_pos (by simp [Request.parsing, hword])]
      rfl
    · rw [if_neg (by simpa [Request.parsing] using hword), expect_of_ne fun h => hno ⟨hword, h⟩]
      rfl
  · simp only [foldl_push, List.nil_append]
    rfl

/-- The major version number runs to the dot. -/
lemma parse_major_iff {method uri : List UInt8} :
    parse lexicalCast (Request.parsing ⟨method, uri, 0, 0, [], []⟩ .majorFirst) bs =
        (some true, s', rest) ↔
      ∃ word bs', bs = word ++ code '.' :: bs' ∧ word ≠ [] ∧ (∀ c ∈ word, isDigit c) ∧
        parse lexicalCast (Request.parsing ⟨method, uri, word.foldl addDigit 0, 0, [], []⟩
          .minorFirst) bs' = (some true, s', rest) := by
  refine feed_first_iff (fun v => Request.parsing ⟨method, uri, v, 0, [], []⟩ .major)
    (fun v => Request.parsing ⟨method, uri, v, 0, [], []⟩ .minorFirst) addDigit
    (fun c => isDigit c) ?_ ?_ ?_ ?_ ?_ (by decide) (by decide : true ≠ false)
  · intro c hc
    exact if_neg (by simpa using hc)
  · intro c hc
    change (ite _ _ _ : Option Bool × Parsing).1 = _
    rw [if_pos (by simpa using hc)]
    rfl
  · intro v c hc
    exact if_pos hc
  · intro v
    change consumeMajor (Request.parsing ⟨method, uri, v, 0, [], []⟩ .major) (code '.') = _
    rw [consumeMajor, if_neg (by decide), expect_self]
    rfl
  · intro v c hc hne
    change (consumeMajor (Request.parsing ⟨method, uri, v, 0, [], []⟩ .major) c).1 = _
    rw [consumeMajor, if_neg hc, expect_of_ne hne]
    rfl

/-- The minor version number runs to the end of the line. -/
lemma parse_minor_iff {method uri : List UInt8} {major : Int} :
    parse lexicalCast (Request.parsing ⟨method, uri, major, 0, [], []⟩ .minorFirst) bs =
        (some true, s', rest) ↔
      ∃ word bs', bs = word ++ code '\r' :: bs' ∧ word ≠ [] ∧ (∀ c ∈ word, isDigit c) ∧
        parse lexicalCast (Request.parsing ⟨method, uri, major, word.foldl addDigit 0, [], []⟩
          .newline) bs' = (some true, s', rest) := by
  refine feed_first_iff (fun v => Request.parsing ⟨method, uri, major, v, [], []⟩ .minor)
    (fun v => Request.parsing ⟨method, uri, major, v, [], []⟩ .newline) addDigit
    (fun c => isDigit c) ?_ ?_ ?_ ?_ ?_ (by decide) (by decide : true ≠ false)
  · intro c hc
    exact if_neg (by simpa using hc)
  · intro c hc
    change (ite _ _ _ : Option Bool × Parsing).1 = _
    rw [if_pos (by simpa using hc)]
    rfl
  · intro v c hc
    exact if_pos hc
  · intro v
    change consumeMinor (Request.parsing ⟨method, uri, major, v, [], []⟩ .minor) (code '\r') = _
    rw [consumeMinor, if_neg (by decide), expect_self]
    rfl
  · intro v c hc hne
    change (consumeMinor (Request.parsing ⟨method, uri, major, v, [], []⟩ .minor) c).1 = _
    rw [consumeMinor, if_neg hc, expect_of_ne hne]
    rfl

/-! ### The headers -/

/-- The parser entered at `point` with the headers `hs`. -/
def Request.parsingHeaders (q : Request) (hs : List Header) (point : Point) : Parsing :=
  Request.parsing { q with headers := hs } point

lemma foldl_pushName (hs : List Header) (name value word : List UInt8) :
    word.foldl pushName (hs ++ [⟨name, value⟩]) = hs ++ [⟨name ++ word, value⟩] := by
  induction word generalizing name with
  | nil => rw [List.foldl_nil, List.append_nil]
  | cons c word ih =>
      rw [List.foldl_cons, pushName, List.modifyLast_concat, ih, List.append_assoc]
      rfl

lemma foldl_pushValue (hs : List Header) (name value word : List UInt8) :
    word.foldl pushValue (hs ++ [⟨name, value⟩]) = hs ++ [⟨name, value ++ word⟩] := by
  induction word generalizing value with
  | nil => rw [List.foldl_nil, List.append_nil]
  | cons c word ih =>
      rw [List.foldl_cons, pushValue, List.modifyLast_concat, ih, List.append_assoc]
      rfl

/-- The value of a header runs to the end of the line. -/
lemma parse_value_iff (hs : List Header) :
    parse lexicalCast (q.parsingHeaders hs .value) bs = (some true, s', rest) ↔
      ∃ word bs', bs = word ++ code '\r' :: code '\n' :: bs' ∧ (∀ c ∈ word, isText c) ∧
        parse lexicalCast (q.parsingHeaders (word.foldl pushValue hs) .headers) bs' =
          (some true, s', rest) := by
  have hline : parse lexicalCast (q.parsingHeaders hs .value) bs = (some true, s', rest) ↔
      ∃ word bs', bs = word ++ code '\r' :: bs' ∧ (∀ c ∈ word, isText c) ∧ True ∧
        parse lexicalCast (q.parsingHeaders (word.foldl pushValue hs) .valueNewline) bs' =
          (some true, s', rest) := by
    refine feed_collect_iff (fun hs => q.parsingHeaders hs .value)
      (fun hs => q.parsingHeaders hs .valueNewline) pushValue (fun _ => True) (fun c => isText c)
      ?_ ?_ ?_ (by decide) (by decide : true ≠ false) hs
    · intro hs c hc
      exact if_pos ((isText_and c).trans hc)
    · intro hs _
      change consumeValue (q.parsingHeaders hs .value) (code '\r') = _
      rw [consumeValue, if_neg (by decide), expect_self]
      rfl
    · intro hs c hc hne
      change (consumeValue (q.parsingHeaders hs .value) c).1 = _
      rw [consumeValue, ← isText, isText_and, if_neg hc, expect_of_ne fun h => hne ⟨trivial, h⟩]
      rfl
  have hnewline (hs : List Header) (bs : List UInt8) :
      parse lexicalCast (q.parsingHeaders hs .valueNewline) bs = (some true, s', rest) ↔
        ∃ bs', bs = code '\n' :: bs' ∧
          parse lexicalCast (q.parsingHeaders hs .headers) bs' = (some true, s', rest) :=
    parse_expect_iff .valueNewline .headers (code '\n') fun c => rfl
  rw [hline]
  constructor
  · rintro ⟨word, bs₁, rfl, hword, -, h⟩
    obtain ⟨bs₂, rfl, h⟩ := (hnewline _ _).mp h
    exact ⟨word, bs₂, rfl, hword, h⟩
  · rintro ⟨word, bs₂, rfl, hword, h⟩
    exact ⟨word, code '\n' :: bs₂, rfl, hword, trivial, (hnewline _ _).mpr ⟨bs₂, rfl, h⟩⟩

/-- The blanks that start a line are dropped; the rest of the line goes on with the value. -/
lemma parse_blanks_iff (hs : List Header) :
    parse lexicalCast (q.parsingHeaders hs .blanks) bs = (some true, s', rest) ↔
      ∃ word text bs', bs = word ++ text ++ code '\r' :: code '\n' :: bs' ∧
        (∀ c ∈ word, isBlank c) ∧ (∀ c ∈ text, isText c) ∧ text.head? ≠ some (code ' ') ∧
        parse lexicalCast (q.parsingHeaders (text.foldl pushValue hs) .headers) bs' =
          (some true, s', rest) := by
  -- behind the blanks, the character is taken as one of the value
  have hloop : parse lexicalCast (q.parsingHeaders hs .blanks) bs = (some true, s', rest) ↔
      ∃ word c bs', bs = word ++ c :: bs' ∧ (∀ c ∈ word, isBlank c) ∧ ¬ isBlank c ∧
        parse lexicalCast (q.parsingHeaders hs .value) (c :: bs') = (some true, s', rest) := by
    refine (feed_loop_iff (fun _ : Unit => q.parsingHeaders hs .blanks) (fun c => isBlank c)
      (fun a _ => a) (fun _ c => consumeValue (q.parsingHeaders hs .blanks) c) ?_ ?_ ()).trans ?_
    · intro _ c hc
      exact if_pos hc
    · intro _ c hc
      exact if_neg hc
    · simp only [parse, feed_cons]
      rfl
  rw [hloop]
  constructor
  · rintro ⟨word, c, bs₁, rfl, hword, hc, h⟩
    obtain ⟨text, bs₂, htext, hok, h⟩ := (parse_value_iff hs).mp h
    refine ⟨word, text, bs₂, by rw [htext, List.append_assoc], hword, hok, ?_, h⟩
    cases text with
    | nil => exact nofun
    | cons c' text =>
        obtain ⟨rfl, -⟩ := List.cons.inj htext
        rintro hspace
        obtain rfl := Option.some.inj hspace
        exact hc (by decide)
  · rintro ⟨word, text, bs₂, rfl, hword, hok, hhead, h⟩
    cases text with
    | nil =>
        refine ⟨word, code '\r', code '\n' :: bs₂, by rw [List.append_nil], hword, by decide, ?_⟩
        exact (parse_value_iff hs).mpr ⟨[], bs₂, rfl, nofun, h⟩
    | cons c text =>
        refine ⟨word, c, text ++ code '\r' :: code '\n' :: bs₂, ?_, hword, ?_, ?_⟩
        · rw [List.append_assoc, List.cons_append]
        · -- a tab is not a character of a value
          rw [isBlank, Bool.or_eq_true, beq_iff_eq, beq_iff_eq]
          rintro (rfl | rfl)
          · exact hhead rfl
          · exact absurd (hok _ List.mem_cons_self) (by decide)
        · exact (parse_value_iff hs).mpr ⟨c :: text, bs₂, rfl, hok, h⟩

/-- A header starts with its name. -/
lemma parse_name_iff (hs : List Header) :
    parse lexicalCast (q.parsingHeaders (hs ++ [⟨[], []⟩]) .name) bs = (some true, s', rest) ↔
      ∃ name text bs',
        bs = name ++ code ':' :: code ' ' :: (text ++ code '\r' :: code '\n' :: bs') ∧
        (∀ c ∈ name, isToken c) ∧ (∀ c ∈ text, isText c) ∧
        parse lexicalCast (q.parsingHeaders (hs ++ [⟨name, text⟩]) .headers) bs' =
          (some true, s', rest) := by
  have hname : parse lexicalCast (q.parsingHeaders (hs ++ [⟨[], []⟩]) .name) bs =
        (some true, s', rest) ↔
      ∃ word bs', bs = word ++ code ':' :: bs' ∧ (∀ c ∈ word, isToken c) ∧ True ∧
        parse lexicalCast (q.parsingHeaders (word.foldl pushName (hs ++ [⟨[], []⟩])) .space) bs' =
          (some true, s', rest) := by
    refine feed_collect_iff (fun hs => q.parsingHeaders hs .name)
      (fun hs => q.parsingHeaders hs .space) pushName (fun _ => True) (fun c => isToken c)
      ?_ ?_ ?_ (by decide : ¬ isToken (code ':')) (by decide : true ≠ false) (hs ++ [⟨[], []⟩])
    · intro hs c hc
      exact if_pos ((isToken_and c).2.1.trans hc)
    · intro hs _
      change consumeName (q.parsingHeaders hs .name) (code ':') = _
      rw [consumeName, if_neg (by decide), expect_self]
      rfl
    · intro hs c hc hne
      change (consumeName (q.parsingHeaders hs .name) c).1 = _
      rw [consumeName, (isToken_and c).2.1, if_neg hc, expect_of_ne fun h => hne ⟨trivial, h⟩]
      rfl
  have hspace (hs : List Header) (bs : List UInt8) :
      parse lexicalCast (q.parsingHeaders hs .space) bs = (some true, s', rest) ↔
        ∃ bs', bs = code ' ' :: bs' ∧
          parse lexicalCast (q.parsingHeaders hs .value) bs' = (some true, s', rest) :=
    parse_expect_iff .space .value (code ' ') fun c => rfl
  simp only [foldl_pushName, List.nil_append] at hname
  rw [hname]
  constructor
  · rintro ⟨name, bs₁, rfl, hok, -, h⟩
    obtain ⟨bs₂, rfl, h⟩ := (hspace _ _).mp h
    obtain ⟨text, bs₃, rfl, htext, h⟩ := (parse_value_iff _).mp h
    rw [foldl_pushValue, List.nil_append] at h
    exact ⟨name, text, bs₃, rfl, hok, htext, h⟩
  · rintro ⟨name, text, bs₃, rfl, hok, htext, h⟩
    refine ⟨name, _, rfl, hok, trivial, (hspace _ _).mpr ⟨_, rfl, ?_⟩⟩
    refine (parse_value_iff _).mpr ⟨text, bs₃, rfl, htext, ?_⟩
    rw [foldl_pushValue, List.nil_append]
    exact h

lemma parse_headers_blank {c : UInt8} (hc : isBlank c) {hs : List Header} (hne : hs ≠ []) :
    parse lexicalCast (q.parsingHeaders hs .headers) (c :: bs) =
      parse lexicalCast (q.parsingHeaders hs .blanks) bs := by
  have hstep : consume lexicalCast (q.parsingHeaders hs .headers) c =
      (none, q.parsingHeaders hs .blanks) := by
    change consumeHeaders (q.parsingHeaders hs .headers) c = _
    rw [consumeHeaders, if_pos (by simp [hc]), if_pos hc,
      if_neg (by simpa [Request.parsingHeaders, Request.parsing] using hne)]
    rfl
  rw [parse, feed_cons, hstep]
  rfl

/-- Nothing has been read that a line could go on with. -/
lemma parse_headers_blank_nil {c : UInt8} (hc : isBlank c) :
    (parse lexicalCast (q.parsingHeaders [] .headers) (c :: bs)).1 = some false := by
  have hstep : consume lexicalCast (q.parsingHeaders [] .headers) c =
      (q.parsingHeaders [] .headers).finish false := by
    change consumeHeaders (q.parsingHeaders [] .headers) c = _
    rw [consumeHeaders, if_pos (by simp [hc]), if_pos hc]
    rfl
  rw [parse, feed_cons, hstep]
  rfl

lemma parse_headers_token {c : UInt8} (hc : isToken c) (hs : List Header) :
    parse lexicalCast (q.parsingHeaders hs .headers) (c :: bs) =
      parse lexicalCast (q.parsingHeaders (hs ++ [⟨[], []⟩]) .name) (c :: bs) := by
  have hstep : consume lexicalCast (q.parsingHeaders hs .headers) c =
      consume lexicalCast (q.parsingHeaders (hs ++ [⟨[], []⟩]) .name) c := by
    change consumeHeaders (q.parsingHeaders hs .headers) c = _
    rw [consumeHeaders, (isToken_and c).2.2, if_pos (by simp [hc]),
      if_neg (by simp [(ne_of_isToken hc).2.2.2])]
    change consumeName _ c = consumeName _ c
    rw [consumeName, consumeName, (isToken_and c).2.1, if_pos hc, if_pos hc]
    rfl
  rw [parse, parse, feed_cons, feed_cons, hstep]

lemma parse_headers_other {c : UInt8} (hblank : ¬ isBlank c) (htoken : ¬ isToken c)
    (hs : List Header) :
    parse lexicalCast (q.parsingHeaders hs .headers) (c :: bs) =
      goOn (consume lexicalCast) ((q.parsingHeaders hs .headers).expect c (code '\r') .lastNewline)
        bs := by
  have hstep : consume lexicalCast (q.parsingHeaders hs .headers) c =
      (q.parsingHeaders hs .headers).expect c (code '\r') .lastNewline := by
    change consumeHeaders (q.parsingHeaders hs .headers) c = _
    rw [consumeHeaders, (isToken_and c).2.2, if_neg (by simp [hblank, htoken])]
  rw [parse, feed_cons, hstep]

/-- What can come where a header may start: the end of the headers, a line that goes on with the
header before, or a header. -/
lemma parse_headers_iff (hs : List Header) :
    parse lexicalCast (q.parsingHeaders hs .headers) bs = (some true, s', rest) ↔
      (∃ bs', bs = code '\r' :: bs' ∧
        parse lexicalCast (q.parsingHeaders hs .lastNewline) bs' = (some true, s', rest)) ∨
      (∃ (f : Fold) (bs' : List UInt8), hs ≠ [] ∧ bs = f.render ++ bs' ∧
        parse lexicalCast (q.parsingHeaders (f.text.foldl pushValue hs) .headers) bs' =
          (some true, s', rest)) ∨
      ∃ (name text bs' : List UInt8),
        bs = name ++ [code ':', code ' '] ++ text ++ crlf ++ bs' ∧ name ≠ [] ∧
          (∀ c ∈ name, isToken c) ∧ (∀ c ∈ text, isText c) ∧
          parse lexicalCast (q.parsingHeaders (hs ++ [⟨name, text⟩]) .headers) bs' =
            (some true, s', rest) := by
  cases bs with
  | nil =>
      refine iff_of_false nofun ?_
      rintro (⟨bs', hbs, -⟩ | ⟨f, bs', -, hbs, -⟩ | ⟨name, text, bs', hbs, -⟩)
      · exact absurd hbs nofun
      · simp only [Fold.render, List.nil_eq, List.append_eq_nil_iff] at hbs
        exact f.blanks_ne hbs.1.1.1
      · exact absurd (congrArg List.length hbs) (by simp)
  | cons c bs =>
      constructor
      · intro h
        by_cases hblank : isBlank c
        · by_cases hne : hs = []
          · rw [hne] at h
            have hno : some true = some false :=
              (congrArg Prod.fst h).symm.trans (parse_headers_blank_nil hblank)
            exact absurd hno (by simp)
          · rw [parse_headers_blank hblank hne] at h
            obtain ⟨word, text, bs', rfl, hword, htext, hhead, h⟩ := (parse_blanks_iff hs).mp h
            refine .inr (.inl ⟨⟨c :: word, text, nofun, ?_, htext, hhead⟩, bs', hne, ?_, h⟩)
            · exact List.forall_mem_cons.mpr ⟨hblank, hword⟩
            · simp [Fold.render, crlf]
        · by_cases htoken : isToken c
          · rw [parse_headers_token htoken] at h
            obtain ⟨name, text, bs', hbs, hname, htext, h⟩ := (parse_name_iff hs).mp h
            refine .inr (.inr ⟨name, text, bs', by simp [hbs, crlf], ?_, hname, htext, h⟩)
            rintro rfl
            exact (ne_of_isToken htoken).2.1 (List.cons.inj hbs).1
          · rw [parse_headers_other hblank htoken] at h
            by_cases hc : c = code '\r'
            · rw [hc, expect_self] at h
              exact .inl ⟨bs, by rw [hc], h⟩
            · rw [expect_of_ne hc] at h
              exact absurd (Prod.mk.inj h).1 (by simp)
      · rintro (⟨bs', hbs, h⟩ | ⟨f, bs', hne, hbs, h⟩ |
          ⟨name, text, bs', hbs, hne, hname, htext, h⟩)
        · obtain ⟨rfl, rfl⟩ := List.cons.inj hbs
          rw [parse_headers_other (by decide) (by decide), expect_self]
          exact h
        · obtain ⟨_ | ⟨b, word⟩, text, hword, hblanks, htext, hhead⟩ := f
          · exact absurd rfl hword
          · obtain ⟨rfl, rfl⟩ := List.cons.inj (hbs.trans (by simp [Fold.render, crlf]) :
              c :: bs = b :: (word ++ text ++ code '\r' :: code '\n' :: bs'))
            obtain ⟨hblank, hblanks⟩ := List.forall_mem_cons.mp hblanks
            rw [parse_headers_blank hblank hne]
            exact (parse_blanks_iff hs).mpr ⟨word, text, bs', rfl, hblanks, htext, hhead, h⟩
        · cases name with
          | nil => exact absurd rfl hne
          | cons b name =>
              obtain ⟨rfl, rfl⟩ := List.cons.inj (hbs.trans (by simp [crlf]) : c :: bs =
                b :: (name ++ code ':' :: code ' ' :: (text ++ code '\r' :: code '\n' :: bs')))
              rw [parse_headers_token (hname _ List.mem_cons_self)]
              exact (parse_name_iff hs).mpr ⟨c :: name, text, bs', rfl, hname, htext, h⟩

/-- Behind a header come the lines that go on with it, and the fields behind it. -/
lemma exists_fields_of_parse (n : ℕ) (hn : bs.length ≤ n) (hs : List Header) (h₀ : Header)
    (h : parse lexicalCast (q.parsingHeaders (hs ++ [h₀]) .headers) bs = (some true, s', rest)) :
    ∃ (folds : List Fold) (fields : List Field) (bs' : List UInt8),
      bs = folds.flatMap Fold.render ++ fields.flatMap Field.render ++ code '\r' :: bs' ∧
        parse lexicalCast (q.parsingHeaders (hs ++ ⟨h₀.name, h₀.value ++ folds.flatMap Fold.text⟩ ::
          fields.map Field.header) .lastNewline) bs' = (some true, s', rest) := by
  induction n generalizing bs hs h₀ with
  | zero =>
      obtain rfl := List.eq_nil_of_length_eq_zero (Nat.le_zero.mp hn)
      exact absurd h nofun
  | succ n ih =>
      rcases (parse_headers_iff _).mp h with ⟨bs', rfl, hnext⟩ | ⟨f, bs', -, rfl, hnext⟩ |
        ⟨name, text, bs', rfl, hne, hname, htext, hnext⟩
      · refine ⟨[], [], bs', rfl, ?_⟩
        rw [List.flatMap_nil, List.append_nil]
        exact hnext
      · -- the line goes on with the last header
        rw [foldl_pushValue] at hnext
        have hlen : bs'.length ≤ n := by
          simp only [Fold.render, crlf, List.length_append, List.length_cons, List.length_nil] at hn
          omega
        obtain ⟨folds, fields, bs₁, rfl, hlast⟩ := ih hlen hs _ hnext
        refine ⟨f :: folds, fields, bs₁, by simp, ?_⟩
        rw [List.flatMap_cons, ← List.append_assoc]
        exact hlast
      · have hlen : bs'.length ≤ n := by
          simp only [crlf, List.length_append, List.length_cons, List.length_nil] at hn
          omega
        obtain ⟨folds, fields, bs₁, rfl, hlast⟩ := ih hlen (hs ++ [h₀]) _ hnext
        refine ⟨[], ⟨name, text, folds, hne, hname, htext⟩ :: fields, bs₁, ?_, ?_⟩
        · simp [Field.render]
        · rw [List.flatMap_nil, List.append_nil, List.map_cons]
          simpa [Field.header] using hlast

/-- The lines that go on with a header. -/
lemma parse_folds (folds : List Fold) (hs : List Header) (h₀ : Header)
    (h : parse lexicalCast (q.parsingHeaders
      (hs ++ [⟨h₀.name, h₀.value ++ folds.flatMap Fold.text⟩]) .headers) bs =
        (some true, s', rest)) :
    parse lexicalCast (q.parsingHeaders (hs ++ [h₀]) .headers)
        (folds.flatMap Fold.render ++ bs) =
      (some true, s', rest) := by
  induction folds generalizing h₀ with
  | nil => simpa using h
  | cons f folds ih =>
      refine (parse_headers_iff _).mpr (.inr (.inl ⟨f, folds.flatMap Fold.render ++ bs, by simp,
        by simp, ?_⟩))
      rw [foldl_pushValue]
      refine ih _ ?_
      rw [List.append_assoc]
      exact h

/-- The fields, with the lines that go on with them. -/
lemma parse_fields (fields : List Field) (hs : List Header)
    (h : parse lexicalCast (q.parsingHeaders (hs ++ fields.map Field.header) .headers) bs =
      (some true, s', rest)) :
    parse lexicalCast (q.parsingHeaders hs .headers) (fields.flatMap Field.render ++ bs) =
      (some true, s', rest) := by
  induction fields generalizing hs with
  | nil => simpa using h
  | cons f fields ih =>
      refine (parse_headers_iff _).mpr (.inr (.inr ⟨f.name, f.text,
        f.folds.flatMap Fold.render ++ (fields.flatMap Field.render ++ bs), ?_, f.name_ne,
        f.name_ok, f.text_ok, ?_⟩))
      · simp [Field.render]
      · refine parse_folds f.folds hs _ (ih _ ?_)
        rw [List.append_assoc]
        exact h

/-- The headers are a list of fields, up to the empty line. -/
lemma parse_fields_iff (q : Request) :
    parse lexicalCast (q.parsingHeaders [] .headers) bs = (some true, s', rest) ↔
      ∃ (fields : List Field) (bs' : List UInt8),
        bs = fields.flatMap Field.render ++ code '\r' :: bs' ∧
        parse lexicalCast (q.parsingHeaders (fields.map Field.header) .lastNewline) bs' =
          (some true, s', rest) := by
  constructor
  · intro h
    rcases (parse_headers_iff _).mp h with ⟨bs', rfl, hnext⟩ | ⟨f, bs', hne, -, -⟩ |
      ⟨name, text, bs', rfl, hne, hname, htext, hnext⟩
    · exact ⟨[], bs', rfl, hnext⟩
    · exact absurd rfl hne
    · obtain ⟨folds, fields, bs₁, rfl, hlast⟩ := exists_fields_of_parse _ (Nat.le_refl _) [] _ hnext
      refine ⟨⟨name, text, folds, hne, hname, htext⟩ :: fields, bs₁, ?_, hlast⟩
      simp [Field.render]
  · rintro ⟨fields, bs', rfl, h⟩
    refine parse_fields fields [] ((parse_headers_iff _).mpr (.inl ⟨bs', rfl, h⟩))

/-! ### The content -/

/-- The loop over the content ends when there is as much as announced. -/
lemma goOn_consumeContent_full_iff {point : Point} {n : UInt64} {done : List UInt8}
    (hdone : done.length = n.toNat) :
    goOn (consume lexicalCast) (consumeContent ⟨point, n, { q with content := done }⟩) bs =
        (some true, s', rest) ↔
      ∃ body, bs = body ++ rest ∧ (done ++ body).length = n.toNat ∧
        s' = ⟨.terminated, n, { q with content := done ++ body }⟩ := by
  rw [show consumeContent ⟨point, n, { q with content := done }⟩ =
    (some true, ⟨.terminated, n, { q with content := done }⟩) from
      if_neg (Nat.not_lt.mpr (Nat.le_of_eq hdone.symm)), goOn_some]
  constructor
  · intro h
    obtain ⟨rfl, rfl⟩ := Prod.mk.inj (Prod.mk.inj h).2
    exact ⟨[], rfl, by rw [List.append_nil, hdone], by rw [List.append_nil]⟩
  · rintro ⟨body, hbody, hlen, rfl⟩
    have hnil : body = [] := by
      rw [List.length_append] at hlen
      exact List.eq_nil_of_length_eq_zero (by omega)
    rw [hbody, hnil, List.append_nil, List.nil_append]

/-- The loop over the content takes as many characters as are announced. -/
lemma goOn_consumeContent_iff {point : Point} {n : UInt64} {done : List UInt8}
    (hdone : done.length ≤ n.toNat) :
    goOn (consume lexicalCast) (consumeContent ⟨point, n, { q with content := done }⟩) bs =
        (some true, s', rest) ↔
      ∃ body, bs = body ++ rest ∧ (done ++ body).length = n.toNat ∧
        s' = ⟨.terminated, n, { q with content := done ++ body }⟩ := by
  induction bs generalizing point done with
  | nil =>
      rcases Nat.lt_or_eq_of_le hdone with hlt | heq
      · rw [show consumeContent ⟨point, n, { q with content := done }⟩ =
          (none, ⟨.content, n, { q with content := done }⟩) from if_pos hlt]
        refine iff_of_false nofun ?_
        rintro ⟨body, hbody, hlen, -⟩
        obtain ⟨rfl, -⟩ := List.append_eq_nil_iff.mp hbody.symm
        rw [List.append_nil] at hlen
        exact absurd hlen (Nat.ne_of_lt hlt)
      · exact goOn_consumeContent_full_iff heq
  | cons c bs ih =>
      rcases Nat.lt_or_eq_of_le hdone with hlt | heq
      · -- one more character is taken
        have hgo : goOn (consume lexicalCast)
            (consumeContent ⟨point, n, { q with content := done }⟩) (c :: bs) =
            goOn (consume lexicalCast)
              (consumeContent ⟨.content, n, { q with content := done ++ [c] }⟩) bs := by
          rw [show consumeContent ⟨point, n, { q with content := done }⟩ =
            (none, ⟨.content, n, { q with content := done }⟩) from if_pos hlt, goOn_none, feed_cons]
          rfl
        rw [hgo, ih (by rw [List.length_append, List.length_singleton]; omega)]
        constructor
        · rintro ⟨body, rfl, hlen, rfl⟩
          exact ⟨c :: body, rfl, by simpa using hlen, by simp⟩
        · rintro ⟨body, hbody, hlen, rfl⟩
          cases body with
          | nil =>
              rw [List.append_nil] at hlen
              exact absurd hlen (Nat.ne_of_lt hlt)
          | cons c' body =>
              obtain ⟨rfl, rfl⟩ := List.cons.inj hbody
              exact ⟨body, rfl, by simpa using hlen, by simp⟩
      · exact goOn_consumeContent_full_iff heq

/-- Behind the empty line comes the content. -/
lemma parse_lastNewline_iff (hq : q.content = []) :
    parse lexicalCast (q.parsing .lastNewline) bs = (some true, s', rest) ↔
      ∃ (n : UInt64) (body : List UInt8), bs = code '\n' :: (body ++ rest) ∧
        Announces lexicalCast q.headers 0 n ∧ body.length = n.toNat ∧
        s' = ⟨.terminated, n, { q with content := body }⟩ := by
  cases bs with
  | nil => exact iff_of_false nofun (by rintro ⟨n, body, hbs, -⟩; exact absurd hbs nofun)
  | cons c bs =>
      rw [parse, feed_cons]
      by_cases hc : c = code '\n'
      · subst hc
        rcases hread : readContentLength lexicalCast q.headers 0 with ⟨_ | _, n⟩
        · -- a length that is not a number
          have hstep : consume lexicalCast (q.parsing .lastNewline) (code '\n') =
              (some false, ⟨.terminated, n, q⟩) := by
            simp [consume, Request.parsing, hread, Parsing.finish]
          rw [hstep]
          refine iff_of_false nofun ?_
          rintro ⟨n', body, -, hann, -⟩
          rw [(readContentLength_eq_iff _ _ _).mpr hann] at hread
          exact absurd (Prod.mk.inj hread).1 nofun
        · have hstep : consume lexicalCast (q.parsing .lastNewline) (code '\n') =
              consumeContent ⟨.lastNewline, n, { q with content := [] }⟩ := by
            simp [consume, Request.parsing, hread, ← hq]
          rw [hstep, goOn_consumeContent_iff (Nat.zero_le _)]
          constructor
          · rintro ⟨body, rfl, hlen, rfl⟩
            exact ⟨n, body, rfl, (readContentLength_eq_iff _ _ _).mp hread, hlen, rfl⟩
          · rintro ⟨n', body, hbs, hann, hlen, rfl⟩
            obtain rfl : n = n' := by
              rw [(readContentLength_eq_iff _ _ _).mpr hann] at hread
              exact (Prod.mk.inj hread).2.symm
            exact ⟨body, (List.cons.inj hbs).2, hlen, rfl⟩
      · have hstep : consume lexicalCast (q.parsing .lastNewline) c =
            (q.parsing .lastNewline).finish false := if_pos hc
        rw [hstep]
        refine iff_of_false nofun ?_
        rintro ⟨n, body, hbs, -⟩
        exact hc (List.cons.inj hbs).1

/-! ### The parser accepts the texts of messages -/

/-- Behind the path come the protocol and its version. -/
lemma parse_protocol_iff {method uri : List UInt8} :
    parse lexicalCast (Request.parsing ⟨method, uri, 0, 0, [], []⟩ .protocolH) bs =
        (some true, s', rest) ↔
      ∃ bs', bs = code 'H' :: code 'T' :: code 'T' :: code 'P' :: code '/' :: bs' ∧
        parse lexicalCast (Request.parsing ⟨method, uri, 0, 0, [], []⟩ .majorFirst) bs' =
          (some true, s', rest) := by
  rw [parse_expect_iff .protocolH .protocolT (code 'H') fun c => rfl]
  simp only [parse_expect_iff .protocolT .protocolT' (code 'T') fun c => rfl,
    parse_expect_iff .protocolT' .protocolP (code 'T') fun c => rfl,
    parse_expect_iff .protocolP .slash (code 'P') fun c => rfl,
    parse_expect_iff .slash .majorFirst (code '/') fun c => rfl]
  constructor
  · rintro ⟨_, rfl, _, rfl, _, rfl, _, rfl, bs', rfl, h⟩
    exact ⟨bs', rfl, h⟩
  · rintro ⟨bs', rfl, h⟩
    exact ⟨_, rfl, _, rfl, _, rfl, _, rfl, bs', rfl, h⟩

/-- **The requests that are accepted.**  The parser accepts a stream exactly when it starts with the
text of a message; it fills in the request of the message and leaves what is behind it. -/
theorem parse_eq_true_iff (hs : s.point = .start) :
    parse lexicalCast s bs = (some true, s', rest) ↔
      ∃ m : Message lexicalCast, bs = m.render ++ rest ∧
        s' = ⟨.terminated, m.contentLength, m.request⟩ := by
  constructor
  · intro h
    obtain ⟨method, _, rfl, hmethod, hmethodne, h₁⟩ := (parse_method_iff hs).mp h
    obtain ⟨uri, _, rfl, huri, hurine, h₂⟩ := parse_uri_iff.mp h₁
    obtain ⟨_, rfl, h₃⟩ := parse_protocol_iff.mp h₂
    obtain ⟨major, _, rfl, hmajorne, hmajor, h₄⟩ := parse_major_iff.mp h₃
    obtain ⟨minor, _, rfl, hminorne, hminor, h₅⟩ := parse_minor_iff.mp h₄
    obtain ⟨_, rfl, h₆⟩ := (parse_expect_iff .newline .headers (code '\n') fun c => rfl).mp h₅
    obtain ⟨fields, _, rfl, h₇⟩ := (parse_fields_iff
      ⟨method, uri, major.foldl addDigit 0, minor.foldl addDigit 0, [], []⟩).mp h₆
    obtain ⟨n, body, rfl, hann, hlen, rfl⟩ := (parse_lastNewline_iff rfl).mp h₇
    refine ⟨⟨method, uri, major, minor, fields, body, n, hmethodne, hmethod, hurine, huri, hmajorne,
      hmajor, hminorne, hminor, hann, hlen⟩, ?_, rfl⟩
    simp [Message.render, crlf]
  · rintro ⟨m, rfl, rfl⟩
    have h₇ : parse lexicalCast (Request.parsing ⟨m.method, m.uri, m.major.foldl addDigit 0,
        m.minor.foldl addDigit 0, m.fields.map Field.header, []⟩ .lastNewline)
        (code '\n' :: (m.content ++ rest)) =
          (some true, ⟨.terminated, m.contentLength, m.request⟩, rest) :=
      (parse_lastNewline_iff rfl).mpr
        ⟨m.contentLength, m.content, rfl, m.announces, m.content_length, rfl⟩
    have h₆ := (parse_fields_iff ⟨m.method, m.uri, m.major.foldl addDigit 0,
      m.minor.foldl addDigit 0, [], []⟩).mpr ⟨m.fields, _, rfl, h₇⟩
    have h₅ := (parse_expect_iff .newline .headers (code '\n') fun c => rfl).mpr ⟨_, rfl, h₆⟩
    have h₄ := parse_minor_iff.mpr ⟨m.minor, _, rfl, m.minor_ne, m.minor_ok, h₅⟩
    have h₃ := parse_major_iff.mpr ⟨m.major, _, rfl, m.major_ne, m.major_ok, h₄⟩
    have h₂ := parse_protocol_iff.mpr ⟨_, rfl, h₃⟩
    have h₁ := parse_uri_iff.mpr ⟨m.uri, _, rfl, m.uri_ok, m.uri_ne, h₂⟩
    have h := (parse_method_iff hs).mpr ⟨m.method, _, rfl, m.method_ok, m.method_ne, h₁⟩
    simpa [Message.render, crlf] using h

end Xdpd.Rest
