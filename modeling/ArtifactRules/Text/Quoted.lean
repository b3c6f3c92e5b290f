import ArtifactRules.Text.Printable

/-! Quoted texts in messages and log lines: between double quotes, with a backslash before quotes
and backslashes, and with escapes for what would not show. -/

namespace ArtifactRules
namespace Text

def codePointEscape (c : Char) : List Char :=
  '\\' :: 'u' :: '\x7b' :: Nat.toDigits 16 c.toNat ++ ['\x7d']

def quotedChar (c : Char) : List Char :=
  if c = '\x00' then ['\\', '0']
  else if c = '\t' then ['\\', 't']
  else if c = '\n' then ['\\', 'n']
  else if c = '\r' then ['\\', 'r']
  else if c = '"' ∨ c = '\\' then ['\\', c]
  else if isEscaped c then codePointEscape c
  else [c]

def quoted (s : String) : String :=
  "\"" ++ String.ofList (s.toList.flatMap quotedChar) ++ "\""

example : quoted "a\"b\n\u200b" = "\"a\\\"b\\n\\u\x7b200b\x7d\"" := by decide +kernel

end Text
end ArtifactRules
