/-
# Scaffold.Template.Bundled -- the templates that come with the library

One template for each kind of file in each language, line by line. Braces are written by their
codes, those of the programs and those of the placeholders alike.
-/

import Scaffold.Request.Basic

namespace Scaffold.Template

/-- Lines of text, each ended by a line feed. -/
def lines (ls : List String) : Text := ls.flatMap fun l => l.text ++ [chr '\n']

/-- The schema of a model, in JavaScript. -/
def modelPlain : Text := lines
  ["var mongoose = require('mongoose');",
   "var Schema   = mongoose.Schema;",
   "",
   "var \x7bschemaName\x7d = new Schema(\x7bfields\x7d);",
   "",
   "module.exports = mongoose.model('\x7bmodelName\x7d', \x7bschemaName\x7d);"]

/-- The schema of a model, in TypeScript. -/
def modelTyped : Text := lines
  ["import \x7b Schema, model \x7d from 'mongoose';",
   "",
   "const \x7bschemaName\x7d = new Schema(\x7bfields\x7d);",
   "",
   "export default model('\x7bmodelName\x7d', \x7bschemaName\x7d);"]

/-- The routes of a model, in JavaScript. -/
def routerPlain : Text := lines
  ["var express = require('express');",
   "var router = express.Router();",
   "var \x7bcontrollerName\x7d = require(\x7bcontrollerPath\x7d);",
   "",
   "/*",
   " * GET",
   " */",
   "router.get('/', \x7bcontrollerName\x7d.list);",
   "",
   "/*",
   " * GET",
   " */",
   "router.get('/:id', \x7bcontrollerName\x7d.show);",
   "",
   "/*",
   " * POST",
   " */",
   "router.post('/', \x7bcontrollerName\x7d.create);",
   "",
   "/*",
   " * PUT",
   " */",
   "router.put('/:id', \x7bcontrollerName\x7d.update);",
   "",
   "/*",
   " * DELETE",
   " */",
   "router.delete('/:id', \x7bcontrollerName\x7d.remove);",
   "",
   "module.exports = router;"]

/-- The routes of a model, in TypeScript. -/
def routerTyped : Text := lines
  ["import \x7b Router \x7d from 'express';",
   "import \x7bcontrollerName\x7d from \x7bcontrollerPath\x7d;",
   "",
   "const router = Router();",
   "",
   "/*",
   " * GET",
   " */",
   "router.get('/', \x7bcontrollerName\x7d.list);",
   "",
   "/*",
   " * GET",
   " */",
   "router.get('/:id', \x7bcontrollerName\x7d.show);",
   "",
   "/*",
   " * POST",
   " */",
   "router.post('/', \x7bcontrollerName\x7d.create);",
   "",
   "/*",
   " * PUT",
   " */",
   "router.put('/:id', \x7bcontrollerName\x7d.update);",
   "",
   "/*",
   " * DELETE",
   " */",
   "router.delete('/:id', \x7bcontrollerName\x7d.remove);",
   "",
   "export default router;"]

/-- The request handlers of a model, in JavaScript. -/
def controllerPlain : Text := lines
  ["var \x7bmodelName\x7d = require(\x7bmodelPath\x7d);",
   "",
   "/**",
   " * \x7bcontrollerName\x7d.js",
   " *",
   " * @description :: Server-side logic for managing \x7bpluralName\x7d.",
   " */",
   "module.exports = \x7b",
   "",
   "    /**",
   "     * \x7bcontrollerName\x7d.list()",
   "     */",
   "    list: async function (req, res) \x7b",
   "        try \x7b",
   "            var \x7bpluralName\x7d = await \x7bmodelName\x7d.find();",
   "            return res.json(\x7bpluralName\x7d);",
   "        \x7d catch (err) \x7b",
   "            return res.status(500).json(\x7b",
   "                message: 'Error when getting \x7bname\x7d.',",
   "                error: err",
   "            \x7d);",
   "        \x7d",
   "    \x7d,",
   "",
   "    /**",
   "     * \x7bcontrollerName\x7d.show()",
   "     */",
   "    show: async function (req, res) \x7b",
   "        var id = req.params.id;",
   "",
   "        try \x7b",
   "            var \x7bname\x7d = await \x7bmodelName\x7d.findOne(\x7b_id: id\x7d);",
   "            if (!\x7bname\x7d) \x7b",
   "                return res.status(404).json(\x7b",
   "                    message: 'No such \x7bname\x7d'",
   "                \x7d);",
   "            \x7d",
   "            return res.json(\x7bname\x7d);",
   "        \x7d catch (err) \x7b",
   "            return res.status(500).json(\x7b",
   "                message: 'Error when getting \x7bname\x7d.',",
   "                error: err",
   "            \x7d);",
   "        \x7d",
   "    \x7d,",
   "",
   "    /**",
   "     * \x7bcontrollerName\x7d.create()",
   "     */",
   "    create: async function (req, res) \x7b",
   "        var \x7bname\x7d = new \x7bmodelName\x7d(\x7b\x7bcreateFields\x7d",
   "        \x7d);",
   "",
   "        try \x7b",
   "            var saved = await \x7bname\x7d.save();",
   "            return res.status(201).json(saved);",
   "        \x7d catch (err) \x7b",
   "            return res.status(500).json(\x7b",
   "                message: 'Error when creating \x7bname\x7d',",
   "                error: err",
   "            \x7d);",
   "        \x7d",
   "    \x7d,",
   "",
   "    /**",
   "     * \x7bcontrollerName\x7d.update()",
   "     */",
   "    update: async function (req, res) \x7b",
   "        var id = req.params.id;",
   "",
   "        try \x7b",
   "            var \x7bname\x7d = await \x7bmodelName\x7d.findOne(\x7b_id: id\x7d);",
   "            if (!\x7bname\x7d) \x7b",
   "                return res.status(404).json(\x7b",
   "                    message: 'No such \x7bname\x7d'",
   "                \x7d);",
   "            \x7d",
   "\x7bupdateFields\x7d",
   "            var saved = await \x7bname\x7d.save();",
   "            return res.json(saved);",
   "        \x7d catch (err) \x7b",
   "            return res.status(500).json(\x7b",
   "                message: 'Error when updating \x7bname\x7d.',",
   "                error: err",
   "            \x7d);",
   "        \x7d",
   "    \x7d,",
   "",
   "    /**",
   "     * \x7bcontrollerName\x7d.remove()",
   "     */",
   "    remove: async function (req, res) \x7b",
   "        var id = req.params.id;",
   "",
   "        try \x7b",
   "            await \x7bmodelName\x7d.findByIdAndDelete(id);",
   "            return res.status(204).json();",
   "        \x7d catch (err) \x7b",
   "            return res.status(500).json(\x7b",
   "                message: 'Error when deleting the \x7bname\x7d.',",
   "                error: err",
   "            \x7d);",
   "        \x7d",
   "    \x7d",
   "\x7d;"]

/-- The request handlers of a model, in TypeScript. -/
def controllerTyped : Text := lines
  ["import \x7b Request, Response \x7d from 'express';",
   "import \x7bmodelName\x7d from \x7bmodelPath\x7d;",
   "",
   "/**",
   " * \x7bcontrollerName\x7d.ts",
   " *",
   " * @description :: Server-side logic for managing \x7bpluralName\x7d.",
   " */",
   "const \x7bcontrollerName\x7d = \x7b",
   "",
   "    /**",
   "     * \x7bcontrollerName\x7d.list()",
   "     */",
   "    list: async (req: Request, res: Response) => \x7b",
   "        try \x7b",
   "            const \x7bpluralName\x7d = await \x7bmodelName\x7d.find();",
   "            return res.json(\x7bpluralName\x7d);",
   "        \x7d catch (err) \x7b",
   "            return res.status(500).json(\x7b",
   "                message: 'Error when getting \x7bname\x7d.',",
   "                error: err",
   "            \x7d);",
   "        \x7d",
   "    \x7d,",
   "",
   "    /**",
   "     * \x7bcontrollerName\x7d.show()",
   "     */",
   "    show: async (req: Request, res: Response) => \x7b",
   "        const id = req.params.id;",
   "",
   "        try \x7b",
   "            const \x7bname\x7d = await \x7bmodelName\x7d.findOne(\x7b_id: id\x7d);",
   "            if (!\x7bname\x7d) \x7b",
   "                return res.status(404).json(\x7b",
   "                    message: 'No such \x7bname\x7d'",
   "                \x7d);",
   "            \x7d",
   "            return res.json(\x7bname\x7d);",
   "        \x7d catch (err) \x7b",
   "            return res.status(500).json(\x7b",
   "                message: 'Error when getting \x7bname\x7d.',",
   "                error: err",
   "            \x7d);",
   "        \x7d",
   "    \x7d,",
   "",
   "    /**",
   "     * \x7bcontrollerName\x7d.create()",
   "     */",
   "    create: async (req: Request, res: Response) => \x7b",
   "        const \x7bname\x7d = new \x7bmodelName\x7d(\x7b\x7bcreateFields\x7d",
   "        \x7d);",
   "",
   "        try \x7b",
   "            const saved = await \x7bname\x7d.save();",
   "            return res.status(201).json(saved);",
   "        \x7d catch (err) \x7b",
   "            return res.status(500).json(\x7b",
   "                message: 'Error when creating \x7bname\x7d',",
   "                error: err",
   "            \x7d);",
   "        \x7d",
   "    \x7d,",
   "",
   "    /**",
   "     * \x7bcontrollerName\x7d.update()",
   "     */",
   "    update: async (req: Request, res: Response) => \x7b",
   "        const id = req.params.id;",
   "",
   "        try \x7b",
   "            const \x7bname\x7d = await \x7bmodelName\x7d.findOne(\x7b_id: id\x7d);",
   "            if (!\x7bname\x7d) \x7b",
   "                return res.status(404).json(\x7b",
   "                    message: 'No such \x7bname\x7d'",
   "                \x7d);",
   "            \x7d",
   "\x7bupdateFields\x7d",
   "            const saved = await \x7bname\x7d.save();",
   "            return res.json(saved);",
   "        \x7d catch (err) \x7b",
   "            return res.status(500).json(\x7b",
   "                message: 'Error when updating \x7bname\x7d.',",
   "                error: err",
   "            \x7d);",
   "        \x7d",
   "    \x7d,",
   "",
   "    /**",
   "     * \x7bcontrollerName\x7d.remove()",
   "     */",
   "    remove: async (req: Request, res: Response) => \x7b",
   "        const id = req.params.id;",
   "",
   "        try \x7b",
   "            await \x7bmodelName\x7d.findByIdAndDelete(id);",
   "            return res.status(204).json();",
   "        \x7d catch (err) \x7b",
   "            return res.status(500).json(\x7b",
   "                message: 'Error when deleting the \x7bname\x7d.',",
   "                error: err",
   "            \x7d);",
   "        \x7d",
   "    \x7d",
   "\x7d;",
   "",
   "export default \x7bcontrollerName\x7d;"]

/-- The bundled template of a kind of file in a language. -/
def bundled : Artifact → Language → Text
  | .model, .plain => modelPlain
  | .model, .typed => modelTyped
  | .router, .plain => routerPlain
  | .router, .typed => routerTyped
  | .controller, .plain => controllerPlain
  | .controller, .typed => controllerTyped

end Scaffold.Template
