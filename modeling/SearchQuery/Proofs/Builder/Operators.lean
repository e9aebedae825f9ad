import SearchQuery.Builder.Basic

namespace SearchQuery

namespace Operator

def tokens (operator : Operator) : List String :=
  if operator = .notEq then ["!=", "<>"] else [operator.token]

def allTokens : List String := ["=", "!=", "<>", "<", "<=", ">", ">=", "text", "range"]

theorem mem_allTokens {text : String} : text ∈ allTokens ↔ ∃ operator, text ∈ tokens operator := by
  have gathered : allTokens =
      [eq, notEq, lt, lte, gt, gte, Operator.text, range].flatMap tokens := rfl
  rw [gathered, List.mem_flatMap]
  constructor
  · rintro ⟨operator, _, listed⟩
    exact ⟨operator, listed⟩
  · rintro ⟨operator, listed⟩
    refine ⟨operator, ?_, listed⟩
    cases operator <;> decide

theorem ofToken?_congr {token other : String} (same : lowerAscii other = lowerAscii token) :
    ofToken? other = ofToken? token := by
  unfold ofToken?
  rw [same]

theorem ofToken?_of_mem {token : String} {operator : Operator}
    (listed : lowerAscii token ∈ operator.tokens) : ofToken? token = some operator := by
  by_cases negates : operator = .notEq
  · subst negates
    have spelled : lowerAscii token = "!=" ∨ lowerAscii token = "<>" := by
      simpa [tokens] using listed
    rcases spelled with spelled | spelled <;> simp [ofToken?, spelled]
  · have spelled : lowerAscii token = operator.token := by
      simpa [tokens, negates] using listed
    have lower : lowerAscii operator.token = operator.token := by
      cases operator <;> decide +kernel
    rw [ofToken?_congr (spelled.trans lower.symm), ofToken?_token]

theorem ofToken?_of_notMem {token : String} (unlisted : lowerAscii token ∉ allTokens) :
    ofToken? token = none := by
  simp only [allTokens, List.mem_cons, List.not_mem_nil, or_false, not_or] at unlisted
  simp [ofToken?, unlisted]

theorem ofToken?_eq_none_iff {token : String} :
    ofToken? token = none ↔ lowerAscii token ∉ allTokens := by
  refine ⟨?_, ofToken?_of_notMem⟩
  intro unknown listed
  obtain ⟨operator, here⟩ := mem_allTokens.mp listed
  rw [ofToken?_of_mem here] at unknown
  cases unknown

theorem ofToken?_eq_some_iff {token : String} {operator : Operator} :
    ofToken? token = some operator ↔ lowerAscii token ∈ operator.tokens := by
  refine ⟨?_, ofToken?_of_mem⟩
  intro found
  by_cases listed : lowerAscii token ∈ allTokens
  · obtain ⟨other, here⟩ := mem_allTokens.mp listed
    rw [ofToken?_of_mem here] at found
    cases found
    exact here
  · rw [ofToken?_of_notMem listed] at found
    cases found

def connects (token : String) (connector : Connector) : Connector :=
  if lowerAscii token ∈ ["!=", "<>"] then .mustNot else connector

theorem connects_of {token : String} {operator : Operator} (found : ofToken? token = some operator)
    (connector : Connector) :
    connects token connector = if operator = .notEq then .mustNot else connector := by
  have negates : lowerAscii token ∈ ["!=", "<>"] ↔ operator = .notEq := by
    have listed : ofToken? token = some .notEq ↔ _ := ofToken?_eq_some_iff
    rw [found, Option.some_inj] at listed
    exact listed.symm
  simp only [connects, negates]

theorem connects_of_unknown {token : String} (unknown : ofToken? token = none)
    (connector : Connector) : connects token connector = connector := by
  apply if_neg
  intro negates
  have found : ofToken? token = some .notEq := ofToken?_eq_some_iff.mpr negates
  rw [unknown] at found
  cases found

def fault? : Operator → Option Json → Option ArgumentFault
  | .eq, _ => none
  | _, none => some .missingValue
  | .range, some (.array [_, _]) => none
  | .range, some value => some (.notAPair value)
  | _, some _ => none

theorem isSome_fault? (operator : Operator) (value : Option Json) :
    (operator.fault? value).isSome ↔
      value = none ∧ operator ≠ .eq ∨
        operator = .range ∧ ∀ low high, value ≠ some (.array [low, high]) := by
  unfold fault?
  split <;> simp_all

end Operator

def valueFault? (token : String) (value : Option Json) : Option ArgumentFault :=
  (Operator.ofToken? token).bind (·.fault? value)

theorem isSome_valueFault? (token : String) (value : Option Json) :
    (valueFault? token value).isSome ↔ lowerAscii token ∈ Operator.allTokens ∧
      (value = none ∧ lowerAscii token ≠ "=" ∨
        lowerAscii token = "range" ∧ ∀ low high, value ≠ some (.array [low, high])) := by
  have equality : lowerAscii token = "=" ↔ Operator.ofToken? token = some .eq := by
    simp [Operator.ofToken?_eq_some_iff, Operator.tokens, Operator.token]
  have between : lowerAscii token = "range" ↔ Operator.ofToken? token = some .range := by
    simp [Operator.ofToken?_eq_some_iff, Operator.tokens, Operator.token]
  unfold valueFault?
  cases found : Operator.ofToken? token with
  | none =>
    have unknown := Operator.ofToken?_eq_none_iff.mp found
    simp [unknown]
  | some operator =>
    have known : lowerAscii token ∈ Operator.allTokens :=
      Operator.mem_allTokens.mpr ⟨operator, Operator.ofToken?_eq_some_iff.mp found⟩
    simp [known, equality, between, found, Operator.isSome_fault?]

theorem fault?_of_lone {value : Json} (lone : ¬ ∃ low high, value = .array [low, high]) :
    Operator.range.fault? (some value) = some (.notAPair value) := by
  unfold Operator.fault?
  split
  all_goals simp_all

theorem boundPair_of_lone {value : Json} (lone : ¬ ∃ low high, value = .array [low, high]) :
    boundPair value = .error (.invalidArgument (.notAPair value)) := by
  unfold boundPair
  split
  · rename_i low high
    exact absurd ⟨low, high, rfl⟩ lone
  · rfl

inductive Leaf.MadeOn : Leaf → String → Prop where
  | term {field : String} (value : Json) : MadeOn (.term field value) field
  | phrase {field : String} (value : Json) : MadeOn (.matchPhrase field value) field
  | range {field : String} {bounds : RangeBounds} (filled : bounds.isEmpty = false) :
    MadeOn (.range field bounds) field

theorem Leaf.MadeOn.field {query : Leaf} {field : String} (made : query.MadeOn field) :
    query.field? = some field := by
  cases made <;> rfl

namespace Clause

theorem ofOperator_answers (field : String) (operator : Operator) (value : Json) :
    (∃ fault, operator.fault? (some value) = some fault ∧
      ∀ connector, ofOperator field operator value connector = .error (.invalidArgument fault)) ∨
    (operator.fault? (some value) = none ∧ ∃ query : Leaf, query.MadeOn field ∧
      ∀ connector, ofOperator field operator value connector =
        .ok (.leaf (if operator = .notEq then .mustNot else connector) query)) := by
  cases operator with
  | range =>
    by_cases pair : ∃ low high, value = .array [low, high]
    · obtain ⟨low, high, rfl⟩ := pair
      exact .inr ⟨rfl, _, .range (RangeBounds.isEmpty_between low high), fun _ => rfl⟩
    · refine .inl ⟨_, fault?_of_lone pair, ?_⟩
      intro connector
      rw [ofOperator, boundPair_of_lone pair]
      rfl
  | eq | notEq => exact .inr ⟨rfl, _, .term value, fun _ => rfl⟩
  | text => exact .inr ⟨rfl, _, .phrase value, fun _ => rfl⟩
  | lt | lte | gt | gte =>
    exact .inr ⟨rfl, _, .range (RangeBounds.isEmpty_set _ _ value), fun _ => rfl⟩

theorem normalize_answers (field token : String) (value : Option Json) :
    (∃ fault, valueFault? token value = some fault ∧
      ∀ connector, normalize field token value connector = .error (.invalidArgument fault)) ∨
    (valueFault? token value = none ∧ ∃ query : Leaf, query.MadeOn field ∧
      ∀ connector, normalize field token value connector =
        .ok (.leaf (Operator.connects token connector) query)) := by
  unfold valueFault? normalize
  cases found : Operator.ofToken? token with
  | none =>
    refine .inr ⟨rfl, _, .term (.string token), ?_⟩
    intro connector
    rw [Operator.connects_of_unknown found]
    rfl
  | some operator =>
    simp only [Operator.connects_of found, Option.bind_some]
    cases value with
    | some value => cases operator <;> exact ofOperator_answers field _ value
    | none =>
      cases operator with
      | eq => exact .inr ⟨rfl, _, .term .null, fun _ => rfl⟩
      | _ => exact .inl ⟨.missingValue, rfl, fun _ => rfl⟩

theorem normalize_of_fault {token : String} {value : Option Json} {fault : ArgumentFault}
    (faulty : valueFault? token value = some fault) (field : String) (connector : Connector) :
    normalize field token value connector = .error (.invalidArgument fault) := by
  rcases normalize_answers field token value with ⟨other, found, fails⟩ | ⟨faultless, _⟩
  · rw [faulty] at found
    cases found
    exact fails connector
  · rw [faulty] at faultless
    cases faultless

theorem normalize_of_faultless {token : String} {value : Option Json}
    (faultless : valueFault? token value = none) (field : String) (connector : Connector) :
    ∃ query, normalize field token value connector =
      .ok (.leaf (Operator.connects token connector) query) := by
  rcases normalize_answers field token value with ⟨fault, faulty, _⟩ | ⟨_, query, _, makes⟩
  · rw [faultless] at faulty
    cases faulty
  · exact ⟨query, makes connector⟩

end Clause

structure Clause.Normalized (field token : String) (value : Option Json)
    (connector : Connector) : Prop where
  refused : (∃ error, normalize field token value connector = .error error) ↔
    lowerAscii token ∈ Operator.allTokens ∧
      (value = none ∧ lowerAscii token ≠ "=" ∨
        lowerAscii token = "range" ∧ ∀ low high, value ≠ some (.array [low, high]))
  argument : ∀ error, normalize field token value connector = .error error →
    ∃ fault, error = .invalidArgument fault
  placed : ∀ clause, normalize field token value connector = .ok clause →
    clause.field? = some field ∧
      clause.connector = if lowerAscii token ∈ ["!=", "<>"] then .mustNot else connector
  spelled : ∀ other, lowerAscii other = lowerAscii token →
    lowerAscii token ∈ Operator.allTokens →
    normalize field other value connector = normalize field token value connector

theorem Clause.normalize_of_spelling {token other : String}
    (same : lowerAscii other = lowerAscii token) (known : lowerAscii token ∈ Operator.allTokens)
    (field : String) (value : Option Json) (connector : Connector) :
    normalize field other value connector = normalize field token value connector := by
  obtain ⟨operator, listed⟩ := Operator.mem_allTokens.mp known
  have found : Operator.ofToken? token = some operator := Operator.ofToken?_of_mem listed
  unfold normalize
  rw [Operator.ofToken?_congr same, found]
  cases operator <;> cases value <;> rfl

theorem Clause.normalized (field token : String) (value : Option Json) (connector : Connector) :
    Normalized field token value connector := by
  have judged := isSome_valueFault? token value
  rcases normalize_answers field token value with
    ⟨fault, faulty, fails⟩ | ⟨faultless, query, made, makes⟩
  · refine ⟨?_, ?_, ?_, fun _ same known => normalize_of_spelling same known field value connector⟩
    · simpa [faulty, fails] using judged
    · intro error failed
      rw [fails] at failed
      cases failed
      exact ⟨fault, rfl⟩
    · intro clause made
      rw [fails] at made
      cases made
  · refine ⟨?_, ?_, ?_, fun _ same known => normalize_of_spelling same known field value connector⟩
    · simpa [faultless, makes] using judged
    · intro error failed
      rw [makes] at failed
      cases failed
    · intro clause answered
      rw [makes] at answered
      cases answered
      exact ⟨made.field, by simp only [Clause.connector, Operator.connects]⟩

namespace Builder

def withLeaf (b : Builder) (connector : Connector) (query : Leaf) : Builder :=
  { b with clauses := b.clauses ++ [.leaf connector query] }

-- The calls that stand for one token each, beside the general ones with that token. Text may be
-- null in the more general of the two, and there only.
structure Shorthands (b : Builder) (field : String) (connector : Connector) : Prop where
  equality : ∀ value, b.whereEq connector field value = b.withLeaf connector (.term field value)
  equalityOp : ∀ value, b.whereOp connector field "=" value =
    .ok (b.withLeaf connector (.term field value))
  equalityWith : ∀ value, b.whereWith connector field "=" value =
    .ok (b.withLeaf connector (.term field (value.getD .null)))
  text : ∀ value, value ≠ .null → b.whereText connector field value =
    .ok (b.withLeaf connector (.matchPhrase field value))
  textNull : b.whereText connector field .null = .error (.invalidArgument .missingValue)
  textOp : ∀ value, b.whereOp connector field "text" value = b.whereText connector field value
  textWith : ∀ value, b.whereWith connector field "text" (some value) =
    .ok (b.withLeaf connector (.matchPhrase field value))
  textMissing : b.whereWith connector field "text" none = b.whereText connector field .null
  between : ∀ low high, b.whereBetween connector field low high =
    b.withLeaf connector (.range field ⟨some low, none, some high, none⟩)
  betweenOp : ∀ low high, b.whereOp connector field "range" (.array [low, high]) =
    .ok (b.withLeaf connector (.range field ⟨some low, none, some high, none⟩))
  betweenWith : ∀ low high, b.whereWith connector field "range" (some (.array [low, high])) =
    .ok (b.withLeaf connector (.range field ⟨some low, none, some high, none⟩))
  value : ∀ token value, lowerAscii token ∉ Operator.allTokens →
    b.whereOp connector field token value =
      .ok (b.withLeaf connector (.term field (.string token)))
  valueWith : ∀ token value, lowerAscii token ∉ Operator.allTokens →
    b.whereWith connector field token value =
      .ok (b.withLeaf connector (.term field (.string token)))

theorem whereWith_unknown {token : String} (unknown : lowerAscii token ∉ Operator.allTokens)
    (b : Builder) (connector : Connector) (field : String) (value : Option Json) :
    b.whereWith connector field token value =
      .ok (b.withLeaf connector (.term field (.string token))) := by
  unfold whereWith Clause.normalize
  rw [Operator.ofToken?_eq_none_iff.mpr unknown]
  rfl

theorem nonNull_of_ne {value : Json} (given : value ≠ .null) : nonNull value = some value := by
  cases value with
  | null => exact absurd rfl given
  | _ => rfl

theorem shorthands (b : Builder) (field : String) (connector : Connector) :
    b.Shorthands field connector where
  equality _ := rfl
  equalityOp value := by cases value <;> rfl
  equalityWith value := by cases value <;> rfl
  text value given := by
    rw [whereText, nonNull_of_ne given]
    rfl
  textNull := rfl
  textOp _ := rfl
  textWith _ := rfl
  textMissing := rfl
  between _ _ := rfl
  betweenOp _ _ := rfl
  betweenWith _ _ := rfl
  value _ value unknown := whereWith_unknown unknown b connector field (nonNull value)
  valueWith _ value unknown := whereWith_unknown unknown b connector field value

inductive AddSame (b : Builder) (plain other : Connector) :
    Except Error Builder → Except Error Builder → Prop where
  | refused (error : Error) : AddSame b plain other (.error error) (.error error)
  | added (query : Leaf) :
    AddSame b plain other (.ok (b.withLeaf plain query)) (.ok (b.withLeaf other query))

structure Alternatives (b : Builder) (field : String) : Prop where
  whereEq : ∀ value, b.AddSame .must .should (.ok (b.whereEq .must field value))
    (.ok (b.whereEq .should field value))
  whereBetween : ∀ low high, b.AddSame .must .should (.ok (b.whereBetween .must field low high))
    (.ok (b.whereBetween .should field low high))
  whereText : ∀ value, b.AddSame .must .should (b.whereText .must field value)
    (b.whereText .should field value)
  whereOp : ∀ token value, lowerAscii token ∉ ["!=", "<>"] → b.AddSame .must .should
    (b.whereOp .must field token value) (b.whereOp .should field token value)
  negated : ∀ token value, lowerAscii token ∈ ["!=", "<>"] → b.AddSame .mustNot .mustNot
    (b.whereOp .must field token value) (b.whereOp .should field token value)

theorem whereWith_addSame (b : Builder) (field token : String) (value : Option Json) :
    b.AddSame (Operator.connects token .must) (Operator.connects token .should)
      (b.whereWith .must field token value) (b.whereWith .should field token value) := by
  unfold whereWith
  rcases Clause.normalize_answers field token value with
    ⟨fault, _, fails⟩ | ⟨_, query, _, makes⟩
  · rw [fails, fails]
    exact .refused _
  · rw [makes, makes]
    exact .added query

theorem alternatives (b : Builder) (field : String) : b.Alternatives field where
  whereEq value := .added (.term field value)
  whereBetween low high := .added (.range field ⟨some low, none, some high, none⟩)
  whereText value := b.whereWith_addSame field "text" (nonNull value)
  whereOp token value plain := by
    have same := b.whereWith_addSame field token (nonNull value)
    rwa [Operator.connects, if_neg plain, Operator.connects, if_neg plain] at same
  negated token value negates := by
    have same := b.whereWith_addSame field token (nonNull value)
    rwa [Operator.connects, if_pos negates, Operator.connects, if_pos negates] at same

end Builder

-- What a token does with its value is settled by the two alone: neither the connector nor the form
-- of the call has a part in it, except that a form may take null for no value.
theorem operator_calls_agree (b : Builder) (field : String) :
    (∀ token value connector, Clause.Normalized field token value connector) ∧
    (∀ connector, b.Shorthands field connector) ∧ b.Alternatives field := by
  refine ⟨?_, b.shorthands field, b.alternatives field⟩
  intro token value connector
  exact Clause.normalized field token value connector

theorem operator_calls_of_tokens_in_capitals :
    let b : Builder := { Builder.ofTarget ⟨"shop", none⟩ with clauses := [.present "id"] }
    lowerAscii "RANGE" ∈ Operator.allTokens ∧ lowerAscii "Sold" ∉ Operator.allTokens ∧
    (∃ error, Clause.normalize "price" "RANGE" (some (.array [.nat 1])) .must = .error error) ∧
    b.whereOp .should "state" "Sold" .null = .ok { b with
      clauses := [.present "id", .leaf .should (.term "state" (.string "Sold"))] } ∧
    b.whereText .must "state" (.string "in stock") = .ok { b with
      clauses := [.present "id", .leaf .must (.matchPhrase "state" (.string "in stock"))] } := by
  intro b
  have known : lowerAscii "RANGE" ∈ Operator.allTokens := by decide +kernel
  have unknown : lowerAscii "Sold" ∉ Operator.allTokens := by decide +kernel
  obtain ⟨normalized, shorthands, _⟩ := operator_calls_agree b "state"
  have refused : ∃ error,
      Clause.normalize "price" "RANGE" (some (.array [.nat 1])) .must = .error error := by
    refine ((operator_calls_agree b "price").1 "RANGE" _ .must).refused.mpr ⟨known, .inr ⟨?_, ?_⟩⟩
    · decide +kernel
    · simp
  exact ⟨known, unknown, refused, (shorthands .should).value "Sold" .null unknown,
    (shorthands .must).text (.string "in stock") (by simp)⟩

end SearchQuery
