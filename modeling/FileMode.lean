import FileMode.Clause.Canonical
import FileMode.Clause.Course
import FileMode.Error
import FileMode.Main
import FileMode.Proofs.Beginnings
import FileMode.Proofs.CanonicalText
import FileMode.Proofs.Chaining
import FileMode.Proofs.Comma
import FileMode.Proofs.Endings
import FileMode.Proofs.Faithful
import FileMode.Proofs.Hyphens
import FileMode.Proofs.LeadingZeros
import FileMode.Proofs.Legible
import FileMode.Proofs.LetterRuns
import FileMode.Proofs.Meaning
import FileMode.Proofs.Placement
import FileMode.Proofs.Resting
import FileMode.Proofs.RoundTrip
