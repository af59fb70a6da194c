/-
The tokens of a JSON tree and the parser of a list of tokens.

A tree's tokens are parsed to that tree, whatever follows them.
-/

import NoxIngestor.Lib.Json

namespace NoxIngestor.Json

inductive Token
  | openBrace
  | closeBrace
  | openBracket
  | closeBracket
  | colon
  | comma
  | number (value : Nat)
  | string (text : String)
deriving DecidableEq

mutual

def tokens : Json → List Token
  | .number value => [.number value]
  | .string text => [.string text]
  | .array items => .openBracket :: (itemsTokens items ++ [.closeBracket])
  | .object fields => .openBrace :: (fieldsTokens fields ++ [.closeBrace])

def itemsTokens : List Json → List Token
  | [] => []
  | [item] => item.tokens
  | item :: rest => item.tokens ++ .comma :: itemsTokens rest

def fieldsTokens : List (String × Json) → List Token
  | [] => []
  | [(key, value)] => .string key :: .colon :: value.tokens
  | (key, value) :: rest =>
      .string key :: .colon :: (value.tokens ++ .comma :: fieldsTokens rest)

end

mutual

/-- Each nested call has one less unit of fuel than its caller. -/
def parseValue : Nat → List Token → Option (Json × List Token)
  | 0, _ => none
  | _ + 1, .number value :: rest => some (.number value, rest)
  | _ + 1, .string text :: rest => some (.string text, rest)
  | _ + 1, .openBracket :: .closeBracket :: rest => some (.array [], rest)
  | fuel + 1, .openBracket :: rest =>
      match parseItems fuel rest with
      | some (items, rest) => some (.array items, rest)
      | none => none
  | _ + 1, .openBrace :: .closeBrace :: rest => some (.object [], rest)
  | fuel + 1, .openBrace :: rest =>
      match parseFields fuel rest with
      | some (fields, rest) => some (.object fields, rest)
      | none => none
  | _ + 1, _ => none

def parseItems : Nat → List Token → Option (List Json × List Token)
  | 0, _ => none
  | fuel + 1, tokens =>
      match parseValue fuel tokens with
      | some (item, .closeBracket :: rest) => some ([item], rest)
      | some (item, .comma :: rest) =>
          match parseItems fuel rest with
          | some (items, rest) => some (item :: items, rest)
          | none => none
      | _ => none

def parseFields : Nat → List Token → Option (List (String × Json) × List Token)
  | fuel + 1, .string key :: .colon :: tokens =>
      match parseValue fuel tokens with
      | some (value, .closeBrace :: rest) => some ([(key, value)], rest)
      | some (value, .comma :: rest) =>
          match parseFields fuel rest with
          | some (fields, rest) => some ((key, value) :: fields, rest)
          | none => none
      | _ => none
  | _, _ => none

end

def parse (tokens : List Token) : Option Json :=
  match parseValue tokens.length tokens with
  | some (json, []) => some json
  | _ => none

section Parsing

private theorem tokens_head (json : Json) :
    ∃ token rest, json.tokens = token :: rest ∧ token ≠ .closeBracket := by
  cases json with
  | number value => exact ⟨.number value, [], rfl, Token.noConfusion⟩
  | string text => exact ⟨.string text, [], rfl, Token.noConfusion⟩
  | array items =>
      exact ⟨.openBracket, itemsTokens items ++ [.closeBracket], rfl, Token.noConfusion⟩
  | object fields =>
      exact ⟨.openBrace, fieldsTokens fields ++ [.closeBrace], rfl, Token.noConfusion⟩

private theorem itemsTokens_head (item : Json) (later : List Json) :
    ∃ token rest, itemsTokens (item :: later) = token :: rest ∧ token ≠ .closeBracket := by
  obtain ⟨token, rest, shape, other⟩ := item.tokens_head
  cases later with
  | nil => exact ⟨token, rest, shape, other⟩
  | cons next later =>
      refine ⟨token, rest ++ .comma :: itemsTokens (next :: later), ?_, other⟩
      rw [itemsTokens, shape]
      · rfl
      · exact fun absurdity => List.cons_ne_nil next later absurdity

private theorem parseValue_items {fuel : Nat} {tokens rest : List Token} {items : List Json}
    (head : ∃ token later, tokens = token :: later ∧ token ≠ .closeBracket)
    (parsed : parseItems fuel tokens = some (items, rest)) :
    parseValue (fuel + 1) (.openBracket :: tokens) = some (.array items, rest) := by
  obtain ⟨token, later, rfl, other⟩ := head
  rw [parseValue, parsed]
  intro more same
  exact other (List.cons.inj same).1

private theorem parseValue_fields {fuel : Nat} {key : String} {tokens rest : List Token}
    {fields : List (String × Json)}
    (parsed : parseFields fuel (.string key :: tokens) = some (fields, rest)) :
    parseValue (fuel + 1) (.openBrace :: .string key :: tokens) =
      some (.object fields, rest) := by
  rw [parseValue, parsed]
  intro more same
  exact Token.noConfusion (List.cons.inj same).1

mutual

theorem parseValue_tokens : (json : Json) → (fuel : Nat) → (rest : List Token) →
    json.tokens.length ≤ fuel → parseValue fuel (json.tokens ++ rest) = some (json, rest)
  | .number value, fuel + 1, rest, _ => rfl
  | .string text, fuel + 1, rest, _ => rfl
  | .array [], fuel + 1, rest, _ => rfl
  | .array (item :: later), fuel + 1, rest, enough => by
      have inner : (itemsTokens (item :: later)).length + 1 ≤ fuel := by
        simp only [tokens, List.length_cons, List.length_append, List.length_nil] at enough
        omega
      have parsed := parseItems_tokens item later fuel rest inner
      have shape : (Json.array (item :: later)).tokens ++ rest =
          .openBracket :: (itemsTokens (item :: later) ++ .closeBracket :: rest) := by
        simp only [tokens, List.cons_append, List.append_assoc, List.nil_append]
      rw [shape]
      apply parseValue_items _ parsed
      obtain ⟨token, more, first, other⟩ := itemsTokens_head item later
      exact ⟨token, more ++ .closeBracket :: rest, by rw [first]; rfl, other⟩
  | .object [], fuel + 1, rest, _ => rfl
  | .object ((key, value) :: later), fuel + 1, rest, enough => by
      have inner : (fieldsTokens ((key, value) :: later)).length + 1 ≤ fuel := by
        simp only [tokens, List.length_cons, List.length_append, List.length_nil] at enough
        omega
      have parsed := parseFields_tokens key value later fuel rest inner
      have shape : (Json.object ((key, value) :: later)).tokens ++ rest =
          .openBrace :: (fieldsTokens ((key, value) :: later) ++ .closeBrace :: rest) := by
        simp only [tokens, List.cons_append, List.append_assoc, List.nil_append]
      have head : ∃ more, fieldsTokens ((key, value) :: later) = .string key :: more := by
        cases later with
        | nil => exact ⟨_, rfl⟩
        | cons next later => exact ⟨_, rfl⟩
      obtain ⟨more, first⟩ := head
      rw [shape, first]
      rw [first] at parsed
      exact parseValue_fields parsed
  | .number value, 0, rest, enough => absurd enough (by simp [tokens])
  | .string text, 0, rest, enough => absurd enough (by simp [tokens])
  | .array items, 0, rest, enough => absurd enough (by simp [tokens])
  | .object fields, 0, rest, enough => absurd enough (by simp [tokens])

theorem parseItems_tokens : (item : Json) → (later : List Json) → (fuel : Nat) →
    (rest : List Token) → (itemsTokens (item :: later)).length + 1 ≤ fuel →
    parseItems fuel (itemsTokens (item :: later) ++ .closeBracket :: rest) =
      some (item :: later, rest)
  | item, [], fuel + 1, rest, enough => by
      have bound : item.tokens.length ≤ fuel := by
        simp only [itemsTokens] at enough
        omega
      have parsed := parseValue_tokens item fuel (.closeBracket :: rest) bound
      rw [itemsTokens, parseItems, parsed]
  | item, next :: later, fuel + 1, rest, enough => by
      have lengths : item.tokens.length + (itemsTokens (next :: later)).length + 1 ≤ fuel := by
        simp only [itemsTokens, List.length_append, List.length_cons] at enough
        omega
      have parsed := parseValue_tokens item fuel
        (.comma :: (itemsTokens (next :: later) ++ .closeBracket :: rest)) (by omega)
      have following := parseItems_tokens next later fuel rest (by omega)
      have shape : itemsTokens (item :: next :: later) ++ .closeBracket :: rest =
          item.tokens ++ .comma :: (itemsTokens (next :: later) ++ .closeBracket :: rest) := by
        simp only [itemsTokens, List.append_assoc, List.cons_append]
      rw [shape, parseItems, parsed]
      simp only [following]

theorem parseFields_tokens : (key : String) → (value : Json) →
    (later : List (String × Json)) → (fuel : Nat) → (rest : List Token) →
    (fieldsTokens ((key, value) :: later)).length + 1 ≤ fuel →
    parseFields fuel (fieldsTokens ((key, value) :: later) ++ .closeBrace :: rest) =
      some ((key, value) :: later, rest)
  | key, value, [], fuel + 1, rest, enough => by
      have bound : value.tokens.length ≤ fuel := by
        simp only [fieldsTokens, List.length_cons] at enough
        omega
      have parsed := parseValue_tokens value fuel (.closeBrace :: rest) bound
      rw [fieldsTokens, List.cons_append, List.cons_append, parseFields, parsed]
  | key, value, (nextKey, next) :: later, fuel + 1, rest, enough => by
      have lengths : value.tokens.length +
          (fieldsTokens ((nextKey, next) :: later)).length + 1 ≤ fuel := by
        simp only [fieldsTokens, List.length_append, List.length_cons] at enough
        omega
      have parsed := parseValue_tokens value fuel
        (.comma :: (fieldsTokens ((nextKey, next) :: later) ++ .closeBrace :: rest)) (by omega)
      have following := parseFields_tokens nextKey next later fuel rest (by omega)
      have shape : fieldsTokens ((key, value) :: (nextKey, next) :: later) ++
            .closeBrace :: rest =
          .string key :: .colon :: (value.tokens ++
            .comma :: (fieldsTokens ((nextKey, next) :: later) ++ .closeBrace :: rest)) := by
        simp only [fieldsTokens, List.append_assoc, List.cons_append]
      rw [shape, parseFields, parsed]
      simp only [following]

end

theorem parse_tokens (json : Json) : parse json.tokens = some json := by
  have parsed := parseValue_tokens json json.tokens.length [] le_rfl
  rw [List.append_nil] at parsed
  rw [parse, parsed]

end Parsing

end NoxIngestor.Json
