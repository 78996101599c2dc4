import PromptPlan.Text.Quoted

/-!
# Listings for inspection

A value is shown for inspection as an expression: quoted texts and bare numbers, lists in
brackets, records with named fields, tables from keys to values, and optional values. A
record of which only part is shown ends in two dots.
-/

namespace PromptPlan.Text

inductive Shown where
  /-- Something already in its written form. -/
  | atom (text : String)
  | text (s : String)
  | list (items : List Shown)
  | optional (item : Option Shown)
  | record (name : String) (fields : List (String × Shown)) (complete : Bool)
  | table (entries : List (String × Shown))

mutual

def Shown.write : Shown → String
  | .atom s => s
  | .text s => quote s
  | .list items => "[" ++ ", ".intercalate (Shown.writeAll items) ++ "]"
  | .optional none => "None"
  | .optional (some item) => "Some(" ++ item.write ++ ")"
  | .record name fields complete =>
    let parts := Shown.writeFields fields ++ (if complete then [] else [".."])
    name ++ " \x7b " ++ ", ".intercalate parts ++ " \x7d"
  | .table entries => "\x7b" ++ ", ".intercalate (Shown.writeEntries entries) ++ "\x7d"

def Shown.writeAll : List Shown → List String
  | [] => []
  | item :: rest => item.write :: Shown.writeAll rest

def Shown.writeFields : List (String × Shown) → List String
  | [] => []
  | (name, item) :: rest => (name ++ ": " ++ item.write) :: Shown.writeFields rest

def Shown.writeEntries : List (String × Shown) → List String
  | [] => []
  | (key, item) :: rest => (quote key ++ ": " ++ item.write) :: Shown.writeEntries rest

end

def Shown.ofBool (b : Bool) : Shown := .atom (if b then "true" else "false")

def Shown.ofNat (n : Nat) : Shown := .atom (toString n)

def Shown.ofTexts (l : List String) : Shown := .list (l.map .text)

end PromptPlan.Text
