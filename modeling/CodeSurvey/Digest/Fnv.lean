namespace CodeSurvey

namespace Digest

/-- A word of 64 bits as 16 lowercase hexadecimal digits. -/
def hex64 (word : UInt64) : String :=
  let digits := Nat.toDigits 16 word.toNat
  String.ofList (List.replicate (16 - digits.length) '0' ++ digits)

def fnv1a (text : String) : UInt64 :=
  text.toUTF8.foldl (fun hash byte => (hash ^^^ byte.toUInt64) * 0x100000001b3)
    (0xcbf29ce484222325 : UInt64)

end Digest

end CodeSurvey
