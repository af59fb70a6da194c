/-
JSON trees and their texts.

The tree has the values a writer of records needs: natural numbers, strings,
arrays and objects.  Every layout writes the same tokens, with other blanks.
-/

import Mathlib.Tactic.Common
import NoxIngestor.Lib.Digits

namespace NoxIngestor

inductive Json
  | number (value : Nat)
  | string (text : String)
  | array (items : List Json)
  | object (fields : List (String × Json))

/-- Control characters without a short escape are written as `\u00xx`. -/
def escapeChar (char : Char) : List Char :=
  if char = '"' then ['\\', '"']
  else if char = '\\' then ['\\', '\\']
  else if char.toNat = 8 then ['\\', 'b']
  else if char.toNat = 9 then ['\\', 't']
  else if char.toNat = 10 then ['\\', 'n']
  else if char.toNat = 12 then ['\\', 'f']
  else if char.toNat = 13 then ['\\', 'r']
  else if char.toNat < 32 then '\\' :: 'u' :: hexDigits 4 char.toNat
  else [char]

def renderString (text : String) : List Char :=
  '"' :: (text.toList.flatMap escapeChar ++ ['"'])

mutual

def Json.render : Json → List Char
  | .number value => (toString value).toList
  | .string text => renderString text
  | .array items => '[' :: (Json.renderItems items ++ [']'])
  | .object fields => '{' :: (Json.renderFields fields ++ ['}'])

def Json.renderItems : List Json → List Char
  | [] => []
  | [item] => item.render
  | item :: rest => item.render ++ ',' :: Json.renderItems rest

def Json.renderFields : List (String × Json) → List Char
  | [] => []
  | [(key, value)] => renderString key ++ ':' :: value.render
  | (key, value) :: rest =>
      renderString key ++ ':' :: (value.render ++ ',' :: Json.renderFields rest)

end

/-! ### Layouts -/

def IsBlank (char : Char) : Prop :=
  char = ' ' ∨ char = '\n' ∨ char = '\t' ∨ char = '\r'

instance (char : Char) : Decidable (IsBlank char) :=
  inferInstanceAs (Decidable (char = ' ' ∨ char = '\n' ∨ char = '\t' ∨ char = '\r'))

/-- The blanks between tokens: before each member, at its depth, and before the
closing bracket; and after the colon of a field. -/
structure Layout where
  gap : Nat → List Char
  colonGap : List Char
  gap_blank : ∀ depth, ∀ char ∈ gap depth, IsBlank char
  colonGap_blank : ∀ char ∈ colonGap, IsBlank char

def Layout.compact : Layout :=
  { gap := fun _depth => []
    colonGap := []
    gap_blank := fun _depth _char member => absurd member List.not_mem_nil
    colonGap_blank := fun _char member => absurd member List.not_mem_nil }

/-- One member a line, indented by two blanks a level. -/
def Layout.pretty : Layout :=
  { gap := fun depth => '\n' :: List.replicate (2 * depth) ' '
    colonGap := [' ']
    gap_blank := by
      intro depth char member
      rcases List.mem_cons.mp member with rfl | indent
      · exact .inr (.inl rfl)
      · exact .inl (List.eq_of_mem_replicate indent)
    colonGap_blank := by
      intro char member
      exact .inl (List.mem_singleton.mp member) }

mutual

def Json.layout (layout : Layout) (depth : Nat) : Json → List Char
  | .number value => (toString value).toList
  | .string text => renderString text
  | .array items =>
      '[' :: (Json.layoutItems layout (depth + 1) items ++
        ((if items.isEmpty then [] else layout.gap depth) ++ [']']))
  | .object fields =>
      '{' :: (Json.layoutFields layout (depth + 1) fields ++
        ((if fields.isEmpty then [] else layout.gap depth) ++ ['}']))

def Json.layoutItems (layout : Layout) (depth : Nat) : List Json → List Char
  | [] => []
  | [item] => layout.gap depth ++ item.layout layout depth
  | item :: rest =>
      layout.gap depth ++ (item.layout layout depth ++
        ',' :: Json.layoutItems layout depth rest)

def Json.layoutFields (layout : Layout) (depth : Nat) :
    List (String × Json) → List Char
  | [] => []
  | [(key, value)] =>
      layout.gap depth ++ (renderString key ++
        ':' :: (layout.colonGap ++ value.layout layout depth))
  | (key, value) :: rest =>
      layout.gap depth ++ (renderString key ++
        ':' :: (layout.colonGap ++ (value.layout layout depth ++
          ',' :: Json.layoutFields layout depth rest)))

end

mutual

theorem Json.layout_compact (depth : Nat) :
    (json : Json) → json.layout .compact depth = json.render
  | .number value => rfl
  | .string text => rfl
  | .array items => by
      have inner := Json.layoutItems_compact (depth + 1) items
      rw [Json.layout, Json.render, inner]
      cases items <;> rfl
  | .object fields => by
      have inner := Json.layoutFields_compact (depth + 1) fields
      rw [Json.layout, Json.render, inner]
      cases fields <;> rfl

theorem Json.layoutItems_compact (depth : Nat) :
    (items : List Json) →
      Json.layoutItems .compact depth items = Json.renderItems items
  | [] => rfl
  | [item] => Json.layout_compact depth item
  | item :: next :: rest => by
      have first := Json.layout_compact depth item
      have later := Json.layoutItems_compact depth (next :: rest)
      rw [Json.layoutItems, Json.renderItems, first, later]
      · rfl
      all_goals exact fun absurdity => List.cons_ne_nil next rest absurdity

theorem Json.layoutFields_compact (depth : Nat) :
    (fields : List (String × Json)) →
      Json.layoutFields .compact depth fields = Json.renderFields fields
  | [] => rfl
  | [(key, value)] => by
      have only := Json.layout_compact depth value
      rw [Json.layoutFields, Json.renderFields, only]
      rfl
  | (key, value) :: next :: rest => by
      have first := Json.layout_compact depth value
      have later := Json.layoutFields_compact depth (next :: rest)
      rw [Json.layoutFields, Json.renderFields, first, later]
      · rfl
      all_goals exact fun absurdity => List.cons_ne_nil next rest absurdity

end

end NoxIngestor
