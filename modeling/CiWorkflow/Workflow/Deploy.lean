import CiWorkflow.Config.Pages
import CiWorkflow.Workflow.Step

set_option autoImplicit false

namespace CiWorkflow

open Workflow

namespace Pages

def header (p : Pages) : List String := [
  "name: Deploy to GitHub Pages",
  "",
  "on:",
  "  push:",
  "    branches: [\"" ++ p.branch ++ "\"]",
  "  workflow_dispatch:",
  "",
  "permissions:",
  "  contents: read",
  "  pages: write",
  "  id-token: write",
  "",
  "concurrency:",
  "  group: \"pages\"",
  "  cancel-in-progress: true"]

def checkoutStep : Step := .uses "Checkout" checkoutAction []

/-- A cache is declared only if it is used: without a lock file the declaration fails the run. -/
def nodeStep (p : Pages) : Step :=
  .uses "Setup Node" "actions/setup-node@v4"
    (.pair "node-version" ("\"" ++ p.nodeVersion ++ "\"")
      :: (if p.useCache then [.pair "cache" "'npm'"] else []))

def buildSteps (p : Pages) : List Step := [
  p.nodeStep,
  .run "Install dependencies" p.installCommand,
  .run "Build" p.buildCommand,
  .uses "Upload artifact" "actions/upload-pages-artifact@v3" [.pair "path" p.outputDir]]

def buildJob (p : Pages) : List String := [
  "",
  "jobs:",
  "  build:",
  "    runs-on: " ++ runner,
  "    steps:"] ++ checkoutStep.lines ++ Step.blocks p.buildSteps

def deployStep : Step := {
  name := "Deploy to GitHub Pages"
  id := some "deployment"
  condition := none
  action := .uses "actions/deploy-pages@v4"
  inputs := [] }

def deployJob : List String := [
  "",
  "  deploy:",
  "    environment:",
  "      name: github-pages",
  "      url: " ++ expr "steps.deployment.outputs.page_url",
  "    runs-on: " ++ runner,
  "    needs: build",
  "    steps:"] ++ deployStep.lines

def workflow (p : Pages) : String := unlines (p.header ++ p.buildJob ++ deployJob)

end Pages

end CiWorkflow
