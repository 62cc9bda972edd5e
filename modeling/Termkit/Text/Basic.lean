/-!
# Texts

A text is the list of its characters, so that its laws are laws of lists. Strings appear only
where text enters and leaves, and in messages.
-/

namespace Termkit

/-- A text is the list of its characters. -/
abbrev Text := List Char

end Termkit
