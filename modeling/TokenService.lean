import TokenService.Main
import TokenService.Proofs.Claims.Canonical
import TokenService.Proofs.Http.Granting
import TokenService.Proofs.Http.Head
import TokenService.Proofs.Http.Routing
import TokenService.Proofs.Http.Spelling
import TokenService.Proofs.Issuer.Anatomy
import TokenService.Proofs.Issuer.Authenticity
import TokenService.Proofs.Issuer.Distinction
import TokenService.Proofs.Issuer.Foreign
import TokenService.Proofs.Issuer.Interchange
import TokenService.Proofs.Issuer.Precedence
import TokenService.Proofs.Issuer.Refinement
import TokenService.Proofs.Lifetime.Resolution
import TokenService.Proofs.Secrecy
import TokenService.Proofs.Session
import TokenService.Proofs.Settings.Restart
import TokenService.Proofs.Startup
