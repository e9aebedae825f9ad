namespace SearchQuery

-- The characters with the Unicode property White_Space.
def isSpace (c : Char) : Bool :=
  ('\x09' ≤ c && c ≤ '\x0d') || c = ' ' || c = '\u0085' || c = '\u00a0' || c = '\u1680' ||
    ('\u2000' ≤ c && c ≤ '\u200a') || c = '\u2028' || c = '\u2029' || c = '\u202f' ||
    c = '\u205f' || c = '\u3000'

def isBlankText (text : String) : Bool := text.toList.all isSpace

end SearchQuery
