-- What a reader gives: the text that it read, and the characters that follow it.

namespace GrammarRegistry.Text

/-- The text that was read and what follows it, or nothing where the characters cannot be read. -/
abbrev Reading := Option (List Char × List Char)

/-- Puts a character before what was read, if anything was. -/
def Reading.prepend (c : Char) (r : Reading) : Reading := r.map fun found => (c :: found.1, found.2)

end GrammarRegistry.Text
