import Manuscript.Json.Basic

/-!
Writing JSON, with two spaces of indentation for each level or in one line.

Quotes, backslashes and control characters are escaped and every other
character stands for itself. An empty array or object has nothing between its
brackets.
-/

namespace Manuscript.Json

def hexDigit (n : Nat) : Char :=
  (Nat.digitChar (n % 16))

def escapeChar (c : Char) : Text :=
  if c = '"' then ['\\', '"']
  else if c = '\\' then ['\\', '\\']
  else if c = '\n' then ['\\', 'n']
  else if c = '\r' then ['\\', 'r']
  else if c = '\t' then ['\\', 't']
  else if c = '\x08' then ['\\', 'b']
  else if c = '\x0c' then ['\\', 'f']
  else if c.toNat < 32 then
    ['\\', 'u', '0', '0', hexDigit (c.toNat / 16), hexDigit c.toNat]
  else [c]

def literal (s : String) : Text :=
  '"' :: s.toList.flatMap escapeChar ++ ['"']

def indent (depth : Nat) : Text :=
  '\n' :: List.replicate (2 * depth) ' '

mutual

def pretty (depth : Nat) : Json → Text
  | .null => "null".toList
  | .bool true => "true".toList
  | .bool false => "false".toList
  | .number literal => literal
  | .string s => literal s
  | .garbled => literal "\ufffd"
  | .array [] => ['[', ']']
  | .array (j :: js) =>
    '[' :: indent (depth + 1) ++ pretty (depth + 1) j ++ prettyItems (depth + 1) js ++
      indent depth ++ [']']
  | .object [] => ['\x7b', '\x7d']
  | .object ((name, j) :: ms) =>
    '\x7b' :: indent (depth + 1) ++ literal name ++ [':', ' '] ++ pretty (depth + 1) j ++
      prettyMembers (depth + 1) ms ++ indent depth ++ ['\x7d']

def prettyItems (depth : Nat) : List Json → Text
  | [] => []
  | j :: js => ',' :: indent depth ++ pretty depth j ++ prettyItems depth js

def prettyMembers (depth : Nat) : List (String × Json) → Text
  | [] => []
  | (name, j) :: ms =>
    ',' :: indent depth ++ literal name ++ [':', ' '] ++ pretty depth j ++ prettyMembers depth ms

end

mutual

def compact : Json → Text
  | .null => "null".toList
  | .bool true => "true".toList
  | .bool false => "false".toList
  | .number literal => literal
  | .string s => literal s
  | .garbled => literal "\ufffd"
  | .array [] => ['[', ']']
  | .array (j :: js) => '[' :: compact j ++ compactItems js ++ [']']
  | .object [] => ['\x7b', '\x7d']
  | .object ((name, j) :: ms) =>
    '\x7b' :: literal name ++ ':' :: compact j ++ compactMembers ms ++ ['\x7d']

def compactItems : List Json → Text
  | [] => []
  | j :: js => ',' :: compact j ++ compactItems js

def compactMembers : List (String × Json) → Text
  | [] => []
  | (name, j) :: ms => ',' :: literal name ++ ':' :: compact j ++ compactMembers ms

end

end Manuscript.Json
